import Mathlib.Data.List.Basic

namespace Libfluid.Library

inductive OutOfBounds
  | read (index : Nat)
  | write (index : Nat)
deriving DecidableEq, Repr

universe u
variable {α : Type u} {buffer values result : List α} {start length : Nat}

def readRange (buffer : List α) (start length : Nat) : Except OutOfBounds (List α) :=
  if start + length ≤ buffer.length then .ok ((buffer.drop start).take length)
  else .error (.read (max start buffer.length))

def writeRange (buffer : List α) (start : Nat) (values : List α) : Except OutOfBounds (List α) :=
  if start + values.length ≤ buffer.length then
    .ok (buffer.take start ++ values ++ buffer.drop (start + values.length))
  else .error (.write (max start buffer.length))

theorem readRange_eq_ok :
    readRange buffer start length = .ok result ↔
      start + length ≤ buffer.length ∧ result = (buffer.drop start).take length := by
  unfold readRange
  split_ifs with inside <;> simp [inside, eq_comm]

theorem writeRange_eq_ok :
    writeRange buffer start values = .ok result ↔ start + values.length ≤ buffer.length ∧
      result = buffer.take start ++ values ++ buffer.drop (start + values.length) := by
  unfold writeRange
  split_ifs with inside <;> simp [inside, eq_comm]

theorem writeRange_fill (done : List α) {fill : α} {left : Nat} (behind : done.length = start)
    (fits : values.length ≤ left) :
    writeRange (done ++ List.replicate left fill) start values =
      .ok (done ++ values ++ List.replicate (left - values.length) fill) := by
  subst behind
  rw [writeRange_eq_ok]
  constructor
  · rw [List.length_append, List.length_replicate]
    omega
  · rw [List.take_left, List.drop_length_add_append, List.drop_replicate]

theorem writeRange_pair {first second : List α} {fill : α} {size at_ : Nat} (behind : first.length = at_)
    (full : at_ + second.length = size) :
    (writeRange (List.replicate size fill) 0 first >>= fun buffer => writeRange buffer at_ second) =
      .ok (first ++ second) := by
  have one : writeRange ([] ++ List.replicate size fill) 0 first =
      .ok ([] ++ first ++ List.replicate (size - first.length) fill) := writeRange_fill [] rfl (by omega)
  have two : writeRange (first ++ List.replicate (size - first.length) fill) at_ second =
      .ok (first ++ second ++ List.replicate (size - first.length - second.length) fill) :=
    writeRange_fill first behind (by omega)
  have none_left : size - first.length - second.length = 0 := by omega
  rw [List.nil_append, List.nil_append] at one
  rw [one]
  show writeRange (first ++ List.replicate (size - first.length) fill) at_ second = _
  rw [two, none_left, List.replicate_zero, List.append_nil]

theorem length_of_writeRange (written : writeRange buffer start values = .ok result) :
    result.length = buffer.length := by
  obtain ⟨inside, rfl⟩ := writeRange_eq_ok.mp written
  rw [List.length_append, List.length_append, List.length_take, List.length_drop]
  omega

end Libfluid.Library
