/-
# Draftsman.Proofs.Encodable -- which texts have bytes

A text has bytes if no half stands alone in it (`Text.unencodable?_eq_none`).  A document is written
in ASCII characters, but for the unit of its layout (`Json.encodable_writeAt`).  So its text has
bytes unless the settings ask for an indentation by a text that has none
(`Command.encodable_of_render`).
-/
import Draftsman.Command
import Draftsman.Proofs.Steps

namespace Draftsman

set_option autoImplicit false

namespace Text

/-- No half stands alone in a text. -/
def Encodable (text : String) : Prop := ∀ c ∈ text.toList, isHalf c = false

instance (text : String) : Decidable (Encodable text) :=
  List.decidableBAll (fun c => isHalf c = false) text.toList

theorem unencodable?_eq_none {text : String} : unencodable? text = none ↔ Encodable text := by
  have run (chars : List Char) :
      (chars.drop (chars.takeWhile fun c => !isHalf c).length).takeWhile isHalf = [] ↔
        ∀ c ∈ chars, isHalf c = false := by
    induction chars with
    | nil => simp
    | cons c rest ih => cases half : isHalf c <;> simp [half, ih]
  have none : unencodable? text = .none ↔ (text.toList.drop
      (text.toList.takeWhile fun c => !isHalf c).length).takeWhile isHalf = [] := by
    simp only [unencodable?]
    split <;> simp [*]
  rw [none, run]
  rfl

theorem encodable_append {first second : String} (own : Encodable first)
    (others : Encodable second) : Encodable (first ++ second) := by
  intro c member
  rw [String.toList_append, List.mem_append] at member
  exact member.elim (own c) (others c)

theorem encodable_join {texts : List String} (each : ∀ text ∈ texts, Encodable text) :
    Encodable (String.join texts) := by
  intro c member
  rw [String.toList_join, List.mem_flatMap] at member
  obtain ⟨text, listed, inside⟩ := member
  exact each text listed c inside

theorem encodable_intercalate {between : String} {texts : List String}
    (own : Encodable between) (each : ∀ text ∈ texts, Encodable text) :
    Encodable (between.intercalate texts) := by
  induction texts with
  | nil => simp [Encodable]
  | cons first rest ih =>
      obtain ⟨head, tail⟩ := List.forall_mem_cons.mp each
      cases rest with
      | nil => simpa using head
      | cons second others =>
          rw [String.intercalate_cons_cons]
          exact encodable_append (encodable_append head own) (ih tail)

/-! ## ASCII characters -/

/-- All characters are ASCII ones. -/
def Ascii (text : List Char) : Prop := ∀ c ∈ text, c.toNat < 0x80

theorem Ascii.encodable {text : List Char} (ascii : Ascii text) :
    Encodable (String.ofList text) := by
  intro c member
  have small := ascii c (by simpa using member)
  have outside : ¬ (0x10d800 ≤ c.toNat ∧ c.toNat < 0x10e000) := by omega
  simp [isHalf, half?, outside]

@[simp] theorem ascii_append {first second : List Char} :
    Ascii (first ++ second) ↔ Ascii first ∧ Ascii second := List.forall_mem_append

@[simp] theorem ascii_cons {c : Char} {rest : List Char} :
    Ascii (c :: rest) ↔ c.toNat < 0x80 ∧ Ascii rest := List.forall_mem_cons

@[simp] theorem ascii_nil : Ascii [] := nofun

theorem ascii_replicate {c : Char} (small : c.toNat < 0x80) (n : Nat) :
    Ascii (List.replicate n c) := by
  intro d member
  exact List.eq_of_mem_replicate member ▸ small

theorem toNat_digitChar (n : Nat) : n.digitChar.toNat < 0x80 := by
  have digits : ∀ k < 16, k.digitChar.toNat < 0x80 := by decide
  by_cases small : n < 16
  · exact digits n small
  · rw [Nat.digitChar_eq_star.mpr (by omega)]
    decide

theorem ascii_toDigits {base : Nat} (some : 1 < base) (n : Nat) : Ascii (Nat.toDigits base n) := by
  induction n using Nat.strongRecOn with
  | ind n ih =>
      by_cases small : n < base
      · rw [Nat.toDigits_of_lt_base small]
        simp [toNat_digitChar]
      · have fewer : n / base < n := Nat.div_lt_self (by omega) some
        rw [Nat.toDigits_of_base_le some (by omega)]
        simp [ih _ fewer, toNat_digitChar]

theorem ascii_halfEscape (half : Nat) : Ascii (halfEscape half) := by
  simp [halfEscape, hexadecimal, ascii_replicate, ascii_toDigits]

end Text

open Text

/-! ## Numbers -/

namespace Binary64

theorem ascii_layout (style : Style) {digits : List Char} (ascii : Ascii digits) (lead : Int) :
    Ascii (layout style digits lead) := by
  have zeros (n : Nat) : Ascii (List.replicate n '0') := ascii_replicate (by decide) n
  have front (n : Nat) : Ascii (digits.take n) := fun c member => ascii c (List.mem_of_mem_take member)
  have back (n : Nat) : Ascii (digits.drop n) := fun c member => ascii c (List.mem_of_mem_drop member)
  have size : Ascii (Nat.toDigits 10 lead.natAbs) := ascii_toDigits (by decide) _
  unfold layout
  split
  · split
    · simp [zeros, ascii]
    · dsimp only
      split
      · simp [zeros, ascii]
      · simp [front, back]
  · have fraction : Ascii (if digits.length ≤ 1 then [] else '.' :: digits.drop 1) := by
      split
      · exact ascii_nil
      · exact ascii_cons.mpr ⟨by decide, back 1⟩
    have sign : (if lead < 0 then '-' else '+').toNat < 0x80 := by split <;> decide
    simp only [padZeros, ascii_append, ascii_cons]
    exact ⟨⟨front 1, fraction⟩, by decide, sign, zeros _, size⟩

theorem encodable_write (x : Binary64) : Encodable (x.write Json.numberStyle) := by
  have sign (negative : Bool) : Encodable (if negative then "-" else "") := by
    cases negative <;> decide
  cases x with
  | nan _ | made => exact (by decide : Encodable "NaN")
  | infinite negative => exact encodable_append (sign negative) (by decide)
  | finite negative m q =>
      refine encodable_append (sign negative) (Ascii.encodable ?_)
      dsimp only
      split
      · simp
      · exact ascii_layout _ (ascii_toDigits (by decide) _) _

end Binary64

theorem encodable_toString (n : Int) : Encodable (toString n) := by
  have natural (k : Nat) : Encodable k.repr := by
    rw [Nat.repr_eq_ofList_toDigits]
    exact (ascii_toDigits (by decide) k).encodable
  rw [Int.toString_eq_repr, Int.repr_eq_if]
  split
  · exact natural _
  · exact encodable_append (by decide) (natural _)

namespace Json

/-! ## Documents -/

theorem ascii_escapedChar (c : Char) : Ascii (escapedChar c) := by
  have four (n : Nat) : Ascii (hexadecimal 4 n) := by
    simp [hexadecimal, ascii_replicate, ascii_toDigits]
  have letter (d : Char) (small : d.toNat < 0x80) : Ascii ['\\', d] := by simp [small]
  unfold escapedChar
  split
  · rename_i quote
    exact letter c (by rcases quote with rfl | rfl <;> decide)
  · iterate 5 (split; · exact letter _ (by decide))
    split
    · rename_i plain
      have most : c.toNat ≤ '~'.toNat := plain.2
      have tilde : '~'.toNat = 126 := rfl
      simp only [ascii_cons, ascii_nil, and_true]
      omega
    · split
      · simp [four]
      · split
        · exact ascii_halfEscape _
        · exact ascii_append.mpr ⟨ascii_halfEscape _, ascii_halfEscape _⟩

theorem encodable_quoted (text : String) : Encodable (quoted text) := by
  have body : Ascii (text.toList.flatMap escapedChar) := by
    intro d member
    obtain ⟨c, -, inside⟩ := List.mem_flatMap.mp member
    exact ascii_escapedChar c d inside
  exact Ascii.encodable (by simp [body])

theorem encodable_writeAtom {v : Value} {text : String} (written : writeAtom v = .ok text) :
    Encodable text := by
  unfold writeAtom at written
  split at written
  · exact Except.ok.inj written ▸ by decide
  · rename_i b
    exact Except.ok.inj written ▸ by cases b <;> decide
  · rename_i n
    unfold writeInt at written
    split at written
    · cases written
    · exact Except.ok.inj written ▸ encodable_toString n
  · rename_i x
    exact Except.ok.inj written ▸ x.encodable_write
  · exact Except.ok.inj written ▸ encodable_quoted _
  · exact Except.ok.inj written ▸ encodable_quoted _
  · cases written

/-- The unit of a layout has bytes. -/
def Layout.Encodable : Layout → Prop
  | .oneLine => True
  | .lines unit => Text.Encodable unit

section Layout

variable {layout : Layout}

theorem encodable_lineBreak (plain : layout.Encodable) (level : Nat) :
    Encodable (layout.lineBreak level) := by
  cases layout with
  | oneLine => exact (by decide : Encodable "")
  | lines unit =>
      refine encodable_append (by decide) (encodable_join fun text member => ?_)
      exact List.eq_of_mem_replicate member ▸ plain

theorem encodable_enclose (plain : layout.Encodable) (level : Nat) {opening closing : String}
    (front : Encodable opening) (back : Encodable closing) {items : List String}
    (each : ∀ item ∈ items, Encodable item) :
    Encodable (enclose layout level opening closing items) := by
  have breaks := encodable_lineBreak plain
  have separator : Encodable (layout.separator (level + 1)) := by
    cases layout with
    | oneLine => exact (by decide : Encodable ", ")
    | lines unit => exact encodable_append (by decide) (breaks _)
  unfold enclose
  split
  · exact encodable_append front back
  · exact encodable_append (encodable_append (encodable_append (encodable_append front (breaks _))
      (encodable_intercalate separator each)) (breaks _)) back

mutual

/-- A document is written with bytes, if the unit of its layout has them. -/
theorem encodable_writeAt (plain : layout.Encodable) : ∀ (v : Value) (level : Nat) {text : String},
    writeAt layout level v = .ok text → Encodable text
  | .list items, level, _ | .tuple items, level, _ => fun written => by
      simp only [writeAt] at written
      obtain ⟨texts, each, done⟩ := bind_eq_ok.mp written
      obtain rfl := Except.ok.inj done
      exact encodable_enclose plain level (by decide) (by decide)
        (encodable_writeItems plain items (level + 1) each)
  | .dict members, level, _ => fun written => by
      simp only [writeAt] at written
      obtain ⟨texts, each, done⟩ := bind_eq_ok.mp written
      obtain rfl := Except.ok.inj done
      exact encodable_enclose plain level (by decide) (by decide)
        (encodable_writeMembers plain members (level + 1) each)
  | .null, _, _ | .bool _, _, _ | .int _, _, _ | .float _, _, _ | .str _, _, _
  | .decimal _, _, _ | .primitive _, _, _ | .host _, _, _ | .pattern _, _, _
  | .set _, _, _ => fun written => by
      simp only [writeAt] at written
      exact encodable_writeAtom written

theorem encodable_writeItems (plain : layout.Encodable) : ∀ (items : List Value) (level : Nat)
    {texts : List String}, writeItems layout level items = .ok texts →
      ∀ text ∈ texts, Encodable text
  | [], _, texts => fun written => by
      obtain rfl : [] = texts := Except.ok.inj written
      exact nofun
  | v :: rest, level, texts => fun written => by
      obtain ⟨text, own, written⟩ := bind_eq_ok.mp written
      obtain ⟨others, each, done⟩ := bind_eq_ok.mp written
      obtain rfl : text :: others = texts := Except.ok.inj done
      exact List.forall_mem_cons.mpr ⟨encodable_writeAt plain v level own,
        encodable_writeItems plain rest level each⟩

theorem encodable_writeMembers (plain : layout.Encodable) : ∀ (members : List (Value × Value))
    (level : Nat) {texts : List String}, writeMembers layout level members = .ok texts →
      ∀ text ∈ texts, Encodable text
  | [], _, texts => fun written => by
      obtain rfl : [] = texts := Except.ok.inj written
      exact nofun
  | (k, v) :: rest, level, texts => fun written => by
      obtain ⟨name, -, written⟩ := bind_eq_ok.mp written
      obtain ⟨text, own, written⟩ := bind_eq_ok.mp written
      obtain ⟨others, each, done⟩ := bind_eq_ok.mp written
      obtain rfl : (quoted name ++ ": " ++ text) :: others = texts := Except.ok.inj done
      refine List.forall_mem_cons.mpr ⟨?_, encodable_writeMembers plain rest level each⟩
      exact encodable_append (encodable_append (encodable_quoted name) (by decide))
        (encodable_writeAt plain v level own)

end

end Layout

end Json

namespace Command

theorem encodable_of_layout {indent : Value} {found : Json.Layout}
    (plain : ∀ unit, indent = .str unit → Encodable unit) (laid : layout indent = .ok found) :
    found.Encodable := by
  have spaces (n : Int) (laid : layout (.int n) = .ok found) : found.Encodable := by
    simp only [layout] at laid
    split at laid
    · cases laid
    · obtain rfl := Except.ok.inj laid
      exact (ascii_replicate (by decide) _).encodable
  cases indent with
  | null =>
      obtain rfl := Except.ok.inj laid
      trivial
  | bool b => exact spaces (if b then 1 else 0) laid
  | int n => exact spaces n laid
  | str unit =>
      obtain rfl := Except.ok.inj laid
      exact plain unit rfl
  | primitive p =>
      obtain rfl := Except.ok.inj laid
      change Encodable p.name
      cases p <;> decide
  | _ => cases laid

/-- The text of a document has bytes, unless an indentation by a text is asked for that has none. -/
theorem encodable_of_render {s : OutputSettings} {document : Members} {text : String}
    (plain : ∀ unit, s.indent = .str unit → Encodable unit)
    (rendered : render s document = .ok text) : Encodable text := by
  obtain ⟨found, laid, rendered⟩ := bind_eq_ok.mp rendered
  obtain ⟨body, written, done⟩ := bind_eq_ok.mp rendered
  obtain rfl := Except.ok.inj done
  have unit := encodable_of_layout plain (mapError_eq_ok.mp laid)
  exact encodable_append (Json.encodable_writeAt unit _ 0 (mapError_eq_ok.mp written)) (by decide)

end Command

end Draftsman
