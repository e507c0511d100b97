import Tandem.ContentHash
import Tandem.Proofs.Path

/-! # Keys of content hashes

Hashes that agree have the same key, and the key of a key is the key itself. A key can be a name in
a path whenever the hash can. -/

namespace Tandem.ContentHash

open Tandem.Path (IsName)

/-- A character in lower case is the character itself, or a small letter in the place of a capital
one. -/
theorem toLower_cases (c : Char) :
    c.toLower = c ∨ 97 ≤ c.toLower.toNat ∧ c.toLower.toNat ≤ 122 := by
  unfold Char.toLower
  split
  · rename_i capital
    right
    obtain ⟨least, most⟩ := capital
    simp only [ge_iff_le, UInt32.le_iff_toNat_le, Char.toNat, UInt32.toNat_add] at least most ⊢
    have a : 'A'.val.toNat = 65 := rfl
    have z : 'Z'.val.toNat = 90 := rfl
    have shift : ('a'.val - 'A'.val).toNat = 32 := rfl
    omega
  · exact .inl rfl

theorem toLower_of_small {c : Char} (small : 97 ≤ c.toNat) : c.toLower = c := by
  unfold Char.toLower
  split
  · rename_i capital
    have most := UInt32.le_iff_toNat_le.1 capital.2
    have z : 'Z'.val.toNat = 90 := rfl
    simp only [Char.toNat] at small
    omega
  · rfl

theorem toLower_toLower (c : Char) : c.toLower.toLower = c.toLower := by
  rcases toLower_cases c with same | small
  · rw [same, same]
  · exact toLower_of_small small.1

theorem toList_key (hash : String) : (key hash).toList = hash.toList.map Char.toLower := by
  rw [key, String.toList_map]

theorem key_of_toList {hash spelled : String} (same : hash.toList.map Char.toLower = spelled.toList) :
    key hash = spelled := by
  rw [← String.toList_inj, toList_key, same]

theorem key_key (hash : String) : key (key hash) = key hash := by
  have twice : Char.toLower ∘ Char.toLower = Char.toLower := funext toLower_toLower
  rw [key, key, String.map_map, twice]

theorem agree_iff {a b : String} : agree a b = true ↔ key a = key b := by
  simp [agree]

theorem agree_eq (a b : String) :
    agree a b = decide (a.toList.map Char.toLower = b.toList.map Char.toLower) := by
  rw [Bool.eq_iff_iff, agree_iff, decide_eq_true_eq, ← String.toList_inj, toList_key, toList_key]

theorem agree_comm (a b : String) : agree a b = agree b a := by
  rw [Bool.eq_iff_iff, agree_iff, agree_iff, eq_comm]

theorem undivided_key {hash : String} (undivided : '/' ∉ hash.toList) : '/' ∉ (key hash).toList := by
  intro slash
  rw [toList_key, List.mem_map] at slash
  obtain ⟨c, member, lower⟩ := slash
  rcases toLower_cases c with same | small
  · exact undivided (by rwa [← same, lower] at member)
  · rw [lower] at small
    exact absurd small (by decide)

theorem isName_key {hash : String} (named : IsName hash) : IsName (key hash) where
  filled := by
    intro empty
    exact named.filled (String.map_eq_empty.1 empty)
  undivided := undivided_key named.undivided

end Tandem.ContentHash
