import Cdp.Contract.Interface

/-!
# The arguments of a call

A call carries four bytes that select the function, and its arguments behind them. An argument that
is a single word stands in its place, whatever stands before and behind it, so it can be read back
from the data of the call (`argument?_call`).
-/

set_option autoImplicit false

namespace Cdp

theorem Keccak.length_digest (message : Bytes) : (Keccak.digest message).length = 32 := by
  have hlane : ∀ w, (Keccak.bytesOfLane w).length = 8 := fun w => by
    rw [Keccak.bytesOfLane, List.length_map, List.length_range]
  simp [Keccak.digest, List.range_succ, hlane]

namespace Contract

theorem length_selector (f : Function) : f.selector.length = 4 := by
  rw [Function.selector, List.length_take, Keccak.digestText, Keccak.length_digest]
  rfl

theorem takeWord?_wordBytes_append (w : Word) (rest : Bytes) :
    takeWord? (wordBytes w ++ rest) = some w := by
  have hlength : (wordBytes w).length = 32 := length_bytesOfNat 32 w.toNat
  have htake : (wordBytes w ++ rest).take 32 = wordBytes w := by
    rw [← hlength]
    exact List.take_left
  have hnumber : natOfBytes (wordBytes w) = w.toNat := by
    rw [wordBytes, natOfBytes_bytesOfNat]
    exact Nat.mod_eq_of_lt w.toNat_lt
  rw [takeWord?, takeNumber?, List.length_append, hlength, if_pos (Nat.le_add_right _ _), htake,
    hnumber, Option.map_some]
  exact congrArg some (Word.ext (Nat.mod_eq_of_lt w.toNat_lt))

theorem length_head (offset : Nat) (v : Value) : (v.head offset).length = 32 := by
  cases v with
  | word w => exact length_bytesOfNat 32 w.toNat
  | list ws => exact length_bytesOfNat 32 offset

/-- The places of what comes after `front` start behind the places of `front`. -/
theorem drop_heads_append (front rest : List Value) (offset : Nat) :
    ∃ offset', (heads offset (front ++ rest)).drop (32 * front.length) = heads offset' rest := by
  induction front generalizing offset with
  | nil => exact ⟨offset, rfl⟩
  | cons v front ih =>
    obtain ⟨offset', h⟩ := ih (offset + v.tail.length)
    refine ⟨offset', ?_⟩
    have hcount : 32 * (v :: front).length = 32 + 32 * front.length := by
      rw [List.length_cons]
      omega
    rw [List.cons_append, heads, hcount, ← List.drop_drop]
    have hrest : (v.head offset ++ heads (offset + v.tail.length) (front ++ rest)).drop 32 =
        heads (offset + v.tail.length) (front ++ rest) := by
      rw [← length_head offset v]
      exact List.drop_left
    rw [hrest, h]

theorem length_heads (values : List Value) (offset : Nat) :
    (heads offset values).length = 32 * values.length := by
  induction values generalizing offset with
  | nil => rfl
  | cons v rest ih =>
    rw [heads, List.length_append, length_head, ih, List.length_cons]
    omega

/-- The argument of a call at a place, read as a word. -/
def argument? (place : Nat) (data : Bytes) : Option Word :=
  takeWord? (data.drop (4 + 32 * place))

theorem argument?_call (f : Function) (front : List Value) (w : Word) (rest : List Value) :
    argument? front.length (f.call (front ++ .word w :: rest)) = some w := by
  have hselector : (f.call (front ++ .word w :: rest)).drop 4 =
      encode (front ++ .word w :: rest) := by
    rw [Function.call, ← length_selector f]
    exact List.drop_left
  obtain ⟨offset, hplace⟩ :=
    drop_heads_append front (.word w :: rest) (32 * (front ++ .word w :: rest).length)
  rw [argument?, ← List.drop_drop, hselector, encode, List.drop_append_of_le_length, hplace, heads,
    Value.head, List.append_assoc]
  · exact takeWord?_wordBytes_append w _
  · rw [length_heads, List.length_append]
    exact Nat.mul_le_mul_left 32 (Nat.le_add_right _ _)

/-- The first argument of a call, read as a word. -/
def firstArgument? (data : Bytes) : Option Word := takeWord? (data.drop 4)

theorem firstArgument?_call (f : Function) (w : Word) (others : List Value) :
    firstArgument? (f.call (.word w :: others)) = some w :=
  argument?_call f [] w others

end Contract

end Cdp
