import Tandem.Sync.Broker

/-! # Deliveries

A connector that keeps a record of all that another one was asked for, with the results. -/

namespace Tandem

/-- What a worker asked of a connector, and how it ended. -/
inductive Delivery where
  | connect (key : String) (result : Except SyncError Unit)
  | jumpto (key : String) (address : Address) (result : Except SyncError Unit)

/-- A connector with a record. A link is filed with the key that it was opened for. -/
def Connector.recorded {σ Link : Type} (connector : Connector σ Link) :
    Connector (σ × List Delivery) (String × Link) where
  connect key := fun (s, record) =>
    let (result, s) := connector.connect key s
    (result.map fun link => (key, link), s, record ++ [.connect key (result.map fun _ => ())])
  jumpto link address := fun (s, record) =>
    let (result, s) := connector.jumpto link.2 address s
    (result, s, record ++ [.jumpto link.1 address result])

end Tandem
