import Cdp.Json.SystemForms
import Cdp.Proofs.Decimal.Text
import Mathlib.Data.List.Induction

/-!
# Data that is read back

The state of the system can be written and read again, and nothing of it is lost: what is written
for a value reads as the value (`ReadsBack`). The instances follow the forms: a number, an address
in its forty digits, a list, a map in the order of its addresses, and records field by field
(`required_bind`).

Reading makes no other demands. Every value of these types is read back, whether or not it is one
that the rest of the program would have built.
-/

set_option autoImplicit false

namespace Cdp

/-- What is written for a value reads as the value. -/
class ReadsBack (α : Type) [JsonWrite α] [JsonRead α] : Prop where
  read_write (a : α) : JsonRead.read (write a) = some a

export ReadsBack (read_write)

/-- A list is read item by item. -/
theorem mapM_map_eq_some {α β : Type} {f : β → Option α} {g : α → β} {as : List α}
    (h : ∀ a ∈ as, f (g a) = some a) : (as.map g).mapM f = some as := by
  induction as with
  | nil => rfl
  | cons a rest ih =>
    obtain ⟨ha, hrest⟩ := List.forall_mem_cons.1 h
    rw [List.map_cons, List.mapM_cons, ha, ih hrest]
    rfl

/-! ## Digits -/

namespace Hex

theorem digit?_digitChar : ∀ d < 16, digit? (Nat.digitChar d) = some d := by
  decide

theorem numberOfDigits?_concat {cs : List Char} {n d : Nat} (hcs : numberOfDigits? cs = some n)
    (hd : d < 16) : numberOfDigits? (cs ++ [Nat.digitChar d]) = some (16 * n + d) := by
  rw [numberOfDigits?] at hcs ⊢
  rw [List.foldlM_append, hcs]
  simp [digit?_digitChar d hd]

theorem numberOfDigits?_toDigits (n : Nat) : numberOfDigits? (Nat.toDigits 16 n) = some n := by
  induction n using Nat.strongRecOn with
  | ind n ih =>
    have hdigit := Nat.mod_lt n (y := 16) (by decide)
    rw [Nat.toDigits_eq_if (by decide)]
    split
    · rename_i hsmall
      have hnil : numberOfDigits? [] = some 0 := rfl
      rw [← List.nil_append [Nat.digitChar n], numberOfDigits?_concat hnil hsmall]
      rw [Nat.mul_zero, Nat.zero_add]
    · -- the last digit is the remainder, and those before it are the digits of the quotient
      rw [numberOfDigits?_concat (ih (n / 16) (by omega)) hdigit, Nat.div_add_mod]

/-- Zeros in front do not count. -/
theorem numberOfDigits?_zeros (k : Nat) (cs : List Char) :
    numberOfDigits? (List.replicate k '0' ++ cs) = numberOfDigits? cs := by
  induction k with
  | zero => rfl
  | succ k ih => exact ih

theorem length_paddedDigits {count n : Nat} (hcount : 0 < count) (hn : n < 16 ^ count) :
    (paddedDigits count n).length = count := by
  have hlength := (Nat.length_toDigits_le_iff (by decide) hcount).2 hn
  rw [paddedDigits, List.length_append, List.length_replicate, Nat.sub_add_cancel hlength]

/-- A number is read from its digits behind the marker. -/
theorem number?_paddedDigits {count n : Nat} (hcount : 0 < count) (hn : n < 16 ^ count) :
    number? count (String.ofList ('0' :: 'x' :: paddedDigits count n)) = some n := by
  rw [number?, String.toList_ofList]
  change (if (paddedDigits count n).length = count then _ else _) = _
  rw [if_pos (length_paddedDigits hcount hn)]
  exact (numberOfDigits?_zeros _ _).trans (numberOfDigits?_toDigits n)

end Hex

theorem Address.ofText?_toText (a : Address) : ofText? a.toText = some a := by
  rw [ofText?, toText, digits, Hex.number?_paddedDigits (by decide) a.toNat_lt]
  exact congrArg some (ext (Nat.mod_eq_of_lt a.toNat_lt))

/-! ## Maps -/

theorem Entries.insert_eq_concat {α : Type} {k : Address} {v : α} {es : List (Address × α)}
    (h : ∀ e ∈ es, e.1 < k) : insert k v es = es ++ [(k, v)] := by
  induction es with
  | nil => rfl
  | cons e rest ih =>
    obtain ⟨hfirst, hrest⟩ := List.forall_mem_cons.1 h
    have hnot : ¬k < e.1 := fun hlt => Address.lt_irrefl k (Address.lt_trans hlt hfirst)
    have hne : ¬k = e.1 := fun he => Address.lt_irrefl k (he ▸ hfirst)
    rw [insert, if_neg hnot, if_neg hne, ih hrest, List.cons_append]

/-- A list whose addresses ascend is the list of entries of its map. -/
theorem AddressMap.entries_ofList {α : Type} {es : List (Address × α)}
    (h : Entries.Ascending es) : (ofList es).entries = es := by
  induction es using List.reverseRecOn with
  | nil => rfl
  | append_singleton es e ih =>
    -- the last address is above all others, so inserting it puts it at the end
    obtain ⟨hes, -, hlast⟩ := List.pairwise_append.1 h
    have hbelow : ∀ other ∈ es, other.1 < e.1 := fun other hother =>
      hlast other hother e (List.mem_singleton_self e)
    rw [ofList, List.foldl_append]
    change Entries.insert e.1 e.2 (ofList es).entries = es ++ [e]
    rw [ih hes, Entries.insert_eq_concat hbelow]

theorem AddressMap.ofList_entries {α : Type} (m : AddressMap α) : ofList m.entries = m := by
  have hentries := entries_ofList m.ascending
  cases m
  cases hm : ofList _
  rw [hm] at hentries
  cases hentries
  rfl

/-! ## General types -/

section General

variable {α : Type} [JsonWrite α] [JsonRead α] [ReadsBack α]

theorem natBelow?_integer {bound n : Nat} (h : n < bound) :
    Json.natBelow? bound (.integer n) = some n := by
  simp [Json.natBelow?, h]

instance : ReadsBack Bool := ⟨fun _ => rfl⟩

instance : ReadsBack UInt8 where
  read_write n := by
    change (Json.natBelow? _ (.integer n.toNat)).map UInt8.ofNat = some n
    rw [natBelow?_integer n.toNat_lt_size, Option.map_some, UInt8.ofNat_toNat]

instance : ReadsBack UInt64 where
  read_write n := by
    change (Json.natBelow? _ (.integer n.toNat)).map UInt64.ofNat = some n
    rw [natBelow?_integer n.toNat_lt_size, Option.map_some, UInt64.ofNat_toNat]

instance : ReadsBack Address where
  read_write a := by
    change Address.readJson (.string a.toText) = some a
    rw [Address.readJson, Address.ofText?_toText]

instance : ReadsBack Decimal where
  read_write d := by
    change (Decimal.parse d.toText).toOption = some d
    rw [Decimal.parse_toText]
    rfl

instance : ReadsBack (List α) := ⟨fun _ => mapM_map_eq_some fun a _ => read_write a⟩

instance : ReadsBack (AddressMap α) where
  read_write m := by
    change AddressMap.readEntries (m.entries.map fun e => (e.1.toText, write e.2)) = some m
    rw [AddressMap.readEntries, mapM_map_eq_some, Option.map_some, m.ofList_entries]
    intro e _
    rw [Address.ofText?_toText, read_write]
    rfl

/-! ## Records -/

open Json Json.Record

/-- A field of an object is found by its name, whatever is read before and after it. -/
theorem required_bind {β : Type} {name : String} {fields : List (String × Json)} {a : α}
    {next : α → Reader β} (h : field? name fields = some (write a)) :
    (required name >>= next) (.named fields) = next a (.named fields) := by
  simp only [required, requiredAfter, take?, h, bind, StateT.bind, StateT.lift, Option.map_some,
    Option.bind_some, id, read_write]
  rfl

/-- A record is read from an object if its fields are. -/
theorem read?_object {β : Type} {reader : Reader β} {fields : List (String × Json)} {b : β}
    (h : reader (.named fields) = some (b, .named fields)) :
    read? reader (.object fields) = some b := by
  rw [read?, h, Option.map_some]

end General

instance : ReadsBack Trove where
  read_write t := by
    apply read?_object
    rw [required_bind (a := t.collaterals) rfl, required_bind (a := t.debt) rfl]
    rfl

instance : ReadsBack FeesFactory where
  read_write f := by
    apply read?_object
    rw [required_bind (a := f.baseRateWithoutDecay) rfl,
      required_bind (a := f.lastFeeOperationTime) rfl]
    rfl

instance : ReadsBack CollateralInfo where
  read_write i := by
    apply read?_object
    rw [required_bind (a := i.decimals) rfl, required_bind (a := i.price) rfl,
      required_bind (a := i.safetyRatio) rfl, required_bind (a := i.recoveryRatio) rfl,
      required_bind (a := i.wrapped) rfl]
    rfl

instance : ReadsBack Whitelist where
  read_write w := by
    apply read?_object
    rw [required_bind (a := w.order) rfl, required_bind (a := w.info) rfl]
    rfl

instance : ReadsBack BlockInfo where
  read_write b := by
    apply read?_object
    rw [required_bind (a := b.number) rfl, required_bind (a := b.timestamp) rfl]
    rfl

instance : ReadsBack SystemState where
  read_write s := by
    apply read?_object
    rw [required_bind (a := s.block) rfl, required_bind (a := s.whitelist) rfl,
      required_bind (a := s.total) rfl, required_bind (a := s.feesFactory) rfl]
    rfl

end Cdp
