/-! # Content hashes

Sessions are told apart by the hash of the image that they look at. A hash is text, and the case of
its ASCII letters means nothing. -/

namespace Tandem.ContentHash

/-- The form under which a hash is filed: ASCII letters in lower case. -/
def key (hash : String) : String := hash.map Char.toLower

/-- Two hashes agree when they differ at most in the case of ASCII letters. -/
def agree (a b : String) : Bool := key a == key b

end Tandem.ContentHash
