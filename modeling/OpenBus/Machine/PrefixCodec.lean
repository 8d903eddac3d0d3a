import Mathlib.Data.Vector.Basic
import Mathlib.Data.List.Basic

/-! # Self-delimiting encodings

An encoding into symbols which a reader can take off the front of a longer input. The
combinators follow the shape of the data: products, sequences, fixed-length vectors, and types
with an injection into one of these. A sequence puts a mark before each of its elements and
another one at its end.
-/

namespace Machine

/-- Put a value as symbols, and take it back off the front of any input that starts with them. -/
structure PrefixCodec (Symbol α : Type) where
  put : α → List Symbol
  take : List Symbol → Option (α × List Symbol)
  take_put : ∀ a rest, take (put a ++ rest) = some (a, rest)

namespace PrefixCodec

variable {Symbol α β : Type}

attribute [simp] take_put

def symbol : PrefixCodec Symbol Symbol where
  put s := [s]
  take
    | [] => none
    | s :: rest => some (s, rest)
  take_put _ _ := rfl

/-- A type whose values are determined by their image under `into`. -/
def image (codec : PrefixCodec Symbol β) (into : α → β) (back : β → α)
    (inverse : ∀ a, back (into a) = a) : PrefixCodec Symbol α where
  put a := codec.put (into a)
  take input := (codec.take input).map fun (b, rest) => (back b, rest)
  take_put a rest := by simp [inverse]

def prod (first : PrefixCodec Symbol α) (second : PrefixCodec Symbol β) :
    PrefixCodec Symbol (α × β) where
  put pair := first.put pair.1 ++ second.put pair.2
  take input := do
    let (a, input) ← first.take input
    let (b, rest) ← second.take input
    return ((a, b), rest)
  take_put pair rest := by simp [List.append_assoc]

def vector (n : ℕ) : PrefixCodec Symbol (Vector Symbol n) where
  put v := v.toList
  take input :=
    if long : n ≤ input.length then
      some (⟨(input.take n).toArray, by simpa using long⟩, input.drop n)
    else none
  take_put v rest := by
    have front : (v.toList ++ rest).take n = v.toList := List.take_left' (by simp)
    have back : (v.toList ++ rest).drop n = rest := List.drop_left' (by simp)
    rw [dif_pos (by simp)]
    simp only [front, back]
    rfl

variable [DecidableEq Symbol] (mark stop : Symbol) (codec : PrefixCodec Symbol α)

def putList : List α → List Symbol
  | [] => [stop]
  | a :: as => mark :: (codec.put a ++ putList as)

/-- Each element uses up its mark, so the number of symbols bounds the number of elements. -/
def takeList : ℕ → List Symbol → Option (List α × List Symbol)
  | 0, _ => none
  | _ + 1, [] => none
  | fuel + 1, s :: input =>
      if s = mark then do
        let (a, input) ← codec.take input
        let (as, rest) ← takeList fuel input
        return (a :: as, rest)
      else some ([], input)

variable {mark stop}

theorem takeList_putList (differ : stop ≠ mark) (as : List α) (rest : List Symbol) {fuel : ℕ}
    (enough : as.length < fuel) :
    takeList mark codec fuel (putList mark stop codec as ++ rest) = some (as, rest) := by
  induction as generalizing fuel with
  | nil =>
    obtain ⟨fuel, rfl⟩ := Nat.exists_eq_succ_of_ne_zero (by omega : fuel ≠ 0)
    simp [putList, takeList, differ]
  | cons a as ih =>
    obtain ⟨fuel, rfl⟩ := Nat.exists_eq_succ_of_ne_zero (by omega : fuel ≠ 0)
    have shorter : as.length < fuel := by simpa using enough
    simp [putList, takeList, List.append_assoc, ih shorter]

omit [DecidableEq Symbol] in
theorem length_lt_length_putList (as : List α) :
    as.length < (putList mark stop codec as).length := by
  induction as with
  | nil => simp [putList]
  | cons a as ih =>
    simp only [putList, List.length_cons, List.length_append]
    omega

variable (mark stop) in
def list (differ : stop ≠ mark) : PrefixCodec Symbol (List α) where
  put := putList mark stop codec
  take input := takeList mark codec input.length input
  take_put as rest := by
    have longer : as.length < (putList mark stop codec as).length :=
      length_lt_length_putList codec as
    exact takeList_putList codec differ as rest (by simp only [List.length_append]; omega)

end PrefixCodec

end Machine
