import Mathlib.Logic.Basic
import TrickLedger.Sheet.Reader

/-!
# What faults point at

A fault with a span is reported with a part of the text that was refused.  For each kind of
fault this says which part that should be.
-/

namespace TrickLedger

/-- A carriage return stands in front of line feeds only. -/
def ReturnsEndLines (text : List Char) : Prop :=
  ∀ before after, text = before ++ '\r' :: after → after.head? = some '\n'

theorem returnsEndLines_nil : ReturnsEndLines [] := by
  intro before after parts
  simp at parts

theorem returnsEndLines_cons_iff {letter : Char} {text : List Char} :
    ReturnsEndLines (letter :: text) ↔
      (letter = '\r' → text.head? = some '\n') ∧ ReturnsEndLines text := by
  constructor
  · refine fun returns => ⟨fun returned => returns [] text (by rw [returned]; rfl), ?_⟩
    exact fun before after parts => returns (letter :: before) after (by rw [parts]; rfl)
  · rintro ⟨first, others⟩ before after parts
    cases before with
    | nil =>
        obtain ⟨rfl, rfl⟩ := List.cons.inj parts
        exact first rfl
    | cons next before => exact others before after (List.cons.inj parts).2

instance decidableReturnsEndLines : DecidablePred ReturnsEndLines
  | [] => .isTrue returnsEndLines_nil
  | _ :: text =>
      have := decidableReturnsEndLines text
      decidable_of_iff' _ returnsEndLines_cons_iff

/-- The text up to the start of a line other than the first one. -/
def EndsWithLineFeed (before : String) : Prop :=
  before.toList.getLast? = some '\n'

/-- The group with a number in the draft of a text. -/
structure Sheet.DraftGroup (text : String) (number : Nat) (group : Group) : Prop where
  made : ∃ draft, draftOf text = .ok draft ∧ draft.groups[number - 1]? = some group
  numbered : 0 < number

/-- The marked part of a text, which stands between two others, is what a fault is about. -/
inductive SheetFault.PointsAt (text before marked after : String) : SheetFault → Prop
  | headerTail (found : Char) (offset : Nat) (character : marked = String.singleton found) :
      PointsAt text before marked after (.unexpectedHeaderTail found offset)
  | afterComment (found : Char) (offset : Nat) (character : marked = String.singleton found) :
      PointsAt text before marked after (.unexpectedAfterComment found offset)
  | openLine (offset : Nat) (lineFeed : marked = "\n") :
      PointsAt text before marked after (.unterminatedOptions offset)
  | openText (offset : Nat) (nothing : marked = "") (last : after = "") :
      PointsAt text before marked after (.unterminatedOptions offset)
  | setting (offset : Nat) (draft : Sheet) (drafted : Sheet.draftOf text = .ok draft)
      (option : ⟨marked, before.length⟩ ∈ draft.settings) :
      PointsAt text before marked after (.unknownSetting marked offset)
  | smallGroup (number players offset : Nat) (first : Member) (others : List Member)
      (group : Sheet.DraftGroup text number ⟨first :: others⟩) (start : first.start = before.length)
      (line : EndsWithLineFeed before) (character : marked.length = 1) :
      PointsAt text before marked after (.groupTooSmall number players offset)
  | emptyName (number offset : Nat) (group : Group) (member : Member) (separator : Char)
      (made : Sheet.DraftGroup text number group) (seated : member ∈ group.members)
      (unnamed : member.name = "") (start : member.start = before.length)
      (line : EndsWithLineFeed before) (separates : Scanner.isSeparator separator = true)
      (character : marked = String.singleton separator) :
      PointsAt text before marked after (.emptyName number offset)
  | repeatedName (number offset : Nat) (earlier later : List Member) (member : Member)
      (group : Sheet.DraftGroup text number ⟨earlier ++ member :: later⟩)
      (name : member.name = marked) (start : member.start = before.length)
      (line : EndsWithLineFeed before)
      (second : (earlier.map Member.name).count marked = 1)
      (order : ∀ other ∈ earlier, other.start < member.start) :
      PointsAt text before marked after (.repeatedName number marked offset)
  | invalidPlay (number index : Nat) (span : Text.Span) (cause : PlayFault) (group : Group)
      (member : Member) (made : Sheet.DraftGroup text number group)
      (seated : member ∈ group.members)
      (play : member.plays[index]? = some ⟨marked, before.length⟩)
      (refused : Play.ofCode marked = .error cause) :
      PointsAt text before marked after
        (.invalidPlay number member.name (index + 1) span cause)

/-- A fault is reported with the bytes of a part of the text that it is about. -/
def SheetFault.Marks (fault : SheetFault) (text : String) : Prop :=
  ∃ before marked after, text = before ++ marked ++ after ∧
    fault.bytes? text = some (before.utf8ByteSize, marked.utf8ByteSize) ∧
    fault.PointsAt text before marked after

end TrickLedger
