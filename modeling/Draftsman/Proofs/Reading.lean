/-
# Draftsman.Proofs.Reading -- what a text is read as

The values that texts stand for are made of lists, dictionaries with texts for keys, and scalars;
an integer among them is not too long to be written, and a double precision number is within its
format (`Value.isRead`); such a value is decoded (`Value.isDecoded_of_isRead`).  The reader gives
no others (`Json.isRead_of_read`): it builds values from the inside out, so the proof goes by the
fuel of its three loops.

Scalars of this kind stay of this kind when their integer part is taken (`scalars_short`), so the
document of a tree that was read has none but such scalars.
-/
import Draftsman.Json.Reader
import Draftsman.Proofs.Magnitude
import Draftsman.Proofs.Scalars

namespace Draftsman

set_option autoImplicit false

namespace Value

def isShort : Value → Bool
  | int n => !Numeral.tooLong n
  | float x => x.inRange
  | v => v.isScalar

/-- Whether a value is made of what texts can stand for. -/
def isRead (v : Value) : Bool := v.consistsOf isText isShort

theorem read_hereditary :
    Fragment.Hereditary (fun key => key.isText = true) fun v => v.isRead = true :=
  consistsOf_hereditary isText isShort

theorem isScalar_of_isShort {v : Value} (short : v.isShort = true) : v.isScalar = true := by
  cases v <;> first | rfl | cases short

/-- A value that was read is decoded. -/
theorem isDecoded_of_isRead {v : Value} (read : v.isRead = true) : v.isDecoded = true := by
  refine read_hereditary.imp Node.decoded_hereditary (fun key text => ?_) (fun v single own => ?_) v
    read
  · cases key <;> first | exact ⟨_, rfl⟩ | cases text
  · rw [isRead, consistsOf_leaf single] at own
    have scalar := isScalar_of_isShort own
    cases v <;> first | rfl | cases scalar

end Value

/-- The scalars that texts stand for have integer parts that texts stand for. -/
theorem scalars_short : Scalars Value.isShort where
  known := Value.isScalar_of_isShort
  null := rfl
  flag _ := rfl
  text _ := rfl
  integer {v n} short read := by
    rw [Value.isShort, Bool.not_eq_true']
    cases v with
    | bool b =>
        obtain rfl := Except.ok.inj read
        refine Numeral.not_tooLong_of_lt (Nat.le_of_ble_eq_true rfl : 1 ≤ Numeral.digitLimit) ?_
        cases b <;> decide
    | int m =>
        obtain rfl : m = n := Except.ok.inj read
        simpa only [Value.isShort, Bool.not_eq_true'] using short
    | float x =>
        cases x with
        | nan tag => cases read
        | made => cases read
        | infinite negative => cases read
        | finite negative m q => exact Except.ok.inj read ▸ Binary64.truncate_short short
    | str s =>
        simp only [Operand.toInteger, Operand.integerOfText] at read
        split at read
        · rename_i own done
          exact Except.ok.inj read ▸ Numeral.short_of_read done
        · cases read
        · cases read
    | _ => first | cases read | cases short

namespace Json

open Value

/-! ## Numbers and words -/

theorem splitWhole_digits (text : List Char) : ∀ c ∈ (splitWhole text).1, c.isDigit = true := by
  unfold splitWhole
  split
  · exact List.forall_mem_singleton.mpr (by decide)
  · exact List.all_eq_true.mp List.all_takeWhile

theorem isRead_of_digits (negative : Bool) {text : List Char}
    (fits : ¬ Numeral.digitLimit < (splitWhole text).1.length) :
    (Value.int (if negative then -(Binary64.readDigits (splitWhole text).1 : Int)
      else Binary64.readDigits (splitWhole text).1)).isRead = true := by
  have small := Binary64.readDigits_lt (splitWhole_digits text)
  have short : Numeral.tooLong (if negative then -(Binary64.readDigits (splitWhole text).1 : Int)
      else Binary64.readDigits (splitWhole text).1) = false :=
    Numeral.not_tooLong_of_lt (Nat.not_lt.mp fits) (by split <;> omega)
  simp only [isRead, consistsOf, isShort, short, Bool.not_false]

theorem isRead_of_readNumber {text rest : List Char} {v : Value}
    (done : readNumber text = .ok (v, rest)) : v.isRead = true := by
  simp only [readNumber] at done
  -- with a sign or without one
  split at done
  all_goals
    split at done
    · cases done
    · split at done
      · split at done
        · cases done
        · rename_i fits
          obtain ⟨rfl, -⟩ := Prod.mk.inj (Except.ok.inj done)
          exact isRead_of_digits _ fits
      · obtain ⟨rfl, -⟩ := Prod.mk.inj (Except.ok.inj done)
        exact Binary64.ofDecimal_inRange _ _ _

theorem isRead_of_readWord? {text rest : List Char} {v : Value}
    (found : readWord? text = some (v, rest)) : v.isRead = true := by
  obtain ⟨word, listed, same⟩ := List.exists_of_findSome?_eq_some found
  obtain ⟨_, -, same⟩ := Option.map_eq_some_iff.mp same
  obtain ⟨rfl, -⟩ := Prod.mk.inj same
  have each : ∀ word ∈ words, word.2.isRead = true := by decide
  exact each word listed

/-! ## Values -/

/-- What each of the three loops of the reader gives with some fuel. -/
structure Reads (fuel : Nat) : Prop where
  value : ∀ {text v rest}, readValue fuel text = .ok (v, rest) → v.isRead = true
  items : ∀ {text items rest}, readItems fuel text = .ok (items, rest) →
    (Value.list items).isRead = true
  members : ∀ {found text members rest}, (Value.dict found).isRead = true →
    readMembers fuel found text = .ok (members, rest) → (Value.dict members).isRead = true

theorem isRead_of_readValue {fuel : Nat} (reads : Reads fuel) {text rest : List Char} {v : Value}
    (done : readValue (fuel + 1) text = .ok (v, rest)) : v.isRead = true := by
  unfold readValue at done
  split at done
  · -- a text
    obtain ⟨⟨read, left⟩, -, same⟩ := map_eq_ok.mp done
    obtain ⟨rfl, -⟩ := Prod.mk.inj same
    rfl
  · -- a list
    split at done
    · obtain ⟨rfl, -⟩ := Prod.mk.inj (Except.ok.inj done)
      rfl
    · obtain ⟨⟨items, left⟩, read, same⟩ := map_eq_ok.mp done
      obtain ⟨rfl, -⟩ := Prod.mk.inj same
      exact reads.items read
  · -- a dictionary
    split at done
    · obtain ⟨rfl, -⟩ := Prod.mk.inj (Except.ok.inj done)
      rfl
    · obtain ⟨⟨members, left⟩, read, same⟩ := map_eq_ok.mp done
      obtain ⟨rfl, -⟩ := Prod.mk.inj same
      exact reads.members rfl read
  · split at done
    · rename_i found word
      obtain rfl := Except.ok.inj done
      exact isRead_of_readWord? word
    · exact isRead_of_readNumber done

theorem isRead_of_readItems {fuel : Nat} (reads : Reads fuel) {text rest : List Char}
    {items : List Value} (done : readItems (fuel + 1) text = .ok (items, rest)) :
    (Value.list items).isRead = true := by
  obtain ⟨⟨item, left⟩, first, done⟩ := bind_eq_ok.mp done
  have own := reads.value first
  simp only at done
  split at done
  · obtain ⟨rfl, -⟩ := Prod.mk.inj (Except.ok.inj done)
    exact (read_hereditary.list _).mpr (List.forall_mem_singleton.mpr own)
  · obtain ⟨⟨others, left⟩, later, same⟩ := map_eq_ok.mp done
    obtain ⟨rfl, -⟩ := Prod.mk.inj same
    exact (read_hereditary.list _).mpr
      (List.forall_mem_cons.mpr ⟨own, (read_hereditary.list _).mp (reads.items later)⟩)
  · cases done

theorem isRead_of_readMembers {fuel : Nat} (reads : Reads fuel) {found members : Members}
    {text rest : List Char} (before : (Value.dict found).isRead = true)
    (done : readMembers (fuel + 1) found text = .ok (members, rest)) :
    (Value.dict members).isRead = true := by
  unfold readMembers at done
  split at done
  · obtain ⟨⟨name, afterName⟩, -, done⟩ := bind_eq_ok.mp done
    simp only at done
    split at done
    · obtain ⟨⟨value, afterValue⟩, read, done⟩ := bind_eq_ok.mp done
      have next : (Value.dict (found.insert (.str (String.ofList name)) value)).isRead = true :=
        read_hereditary.insert rfl (reads.value read) before
      simp only at done
      split at done
      · obtain ⟨rfl, -⟩ := Prod.mk.inj (Except.ok.inj done)
        exact next
      · exact reads.members next done
      · cases done
    · cases done
  · cases done

theorem reads (fuel : Nat) : Reads fuel := by
  induction fuel with
  | zero => exact ⟨nofun, nofun, nofun⟩
  | succ fuel ih =>
      exact ⟨isRead_of_readValue ih, isRead_of_readItems ih, isRead_of_readMembers ih⟩

/-- A text is read as a value that is made of what texts can stand for. -/
theorem isRead_of_read {text : String} {v : Value} (done : read text = .ok v) :
    v.isRead = true := by
  have whole : readAll text.toList = .ok v := by
    rw [read] at done
    cases own : readAll text.toList with
    | ok value =>
        rw [own] at done
        exact congrArg Except.ok (Except.ok.inj done)
    | error stop =>
        rw [own] at done
        cases done
  rw [readAll] at whole
  split at whole
  · cases whole
  · obtain ⟨⟨value, rest⟩, first, whole⟩ := bind_eq_ok.mp whole
    simp only at whole
    split at whole
    · exact Except.ok.inj whole ▸ (reads _).value first
    · cases whole

end Json

end Draftsman
