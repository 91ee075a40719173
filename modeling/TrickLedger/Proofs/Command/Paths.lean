import TrickLedger.Command.Search

/-!
# Paths of entries

A name pushed onto a path is one more component of it.  A slash at the end of a path is the same
slash that a push puts there, so paths are compared with their last slash taken away.
-/

namespace TrickLedger

open Std

namespace Component

instance : TransOrd Component :=
  inferInstanceAs (TransCmp (compareLex (compareOn rank) (compareOn text)))

instance : LawfulEqOrd Component where
  eq_of_compare {first second} equal := by
    obtain ⟨ranks, texts⟩ := compareLex_eq_eq.mp equal
    have ranks : first.rank = second.rank := LawfulEqOrd.eq_of_compare ranks
    have texts : first.text = second.text := LawfulEqOrd.eq_of_compare texts
    cases first <;> cases second <;> simp_all [rank, text]

end Component

namespace FileTree

variable {base name : String} {names : List String}

/-- A path without a slash at its end. -/
def trunk (path : String) : List Char :=
  if path.toList.getLast? = some '/' then path.toList.dropLast else path.toList

theorem toList_eq_trunk_append (slash : base.toList.getLast? = some '/') :
    base.toList = trunk base ++ ['/'] := by
  obtain ⟨front, split⟩ := List.getLast?_eq_some_iff.mp slash
  rw [trunk, if_pos slash, split, List.dropLast_concat]

theorem toList_eq_trunk (noSlash : base.toList.getLast? ≠ some '/') :
    base.toList = trunk base := by
  rw [trunk, if_neg noSlash]

theorem toList_pushName (given : base ≠ "") (name : String) :
    (pushName base name).toList = trunk base ++ '/' :: name.toList := by
  by_cases slash : base.toList.getLast? = some '/'
  · rw [pushName, if_pos (.inr slash), String.toList_append, toList_eq_trunk_append slash,
      List.append_assoc, List.singleton_append]
  · rw [pushName, if_neg (by simp [given, slash]), String.toList_append, String.toList_append,
      toList_eq_trunk slash, List.append_assoc]
    rfl

def trunkParts (path : String) : List String :=
  ((trunk path).splitOn '/').map String.ofList

theorem partsOf_eq_or (path : String) :
    partsOf path = trunkParts path ∨ partsOf path = trunkParts path ++ [""] := by
  by_cases slash : path.toList.getLast? = some '/'
  · right
    rw [partsOf, trunkParts, toList_eq_trunk_append slash, List.splitOn_append_cons_self,
      List.map_append]
    rfl
  · left
    rw [partsOf, trunkParts, toList_eq_trunk slash]

theorem partsOf_ne_singleton_empty (given : base ≠ "") : partsOf base ≠ [""] := by
  intro parts
  have letters : base.toList.splitOn '/' = [[]] := by
    simpa [partsOf, List.map_eq_cons_iff] using parts
  have whole : ['/'].intercalate (base.toList.splitOn '/') = base.toList :=
    List.intercalate_splitOn '/'
  rw [letters, List.intercalate_singleton] at whole
  exact given (String.toList_eq_nil_iff.mp whole.symm)

theorem partsOf_pushName (given : base ≠ "") (named : IsEntryName name) :
    partsOf (pushName base name) = trunkParts base ++ [name] := by
  rw [partsOf, toList_pushName given, List.splitOn_append_cons_self,
    List.splitOn_eq_singleton named.noSlash, List.map_append, trunkParts]
  simp

theorem trunkParts_pushName (given : base ≠ "") (named : IsEntryName name) :
    trunkParts (pushName base name) = trunkParts base ++ [name] := by
  have noSlash : (pushName base name).toList.getLast? ≠ some '/' := by
    have letters : name.toList ≠ [] := by simpa using named.nonempty
    intro slash
    rw [toList_pushName given, List.getLast?_append, List.getLast?_cons,
      List.getLast?_eq_some_getLast letters] at slash
    rw [Option.getD_some, Option.some_or, Option.some_inj] at slash
    exact named.noSlash (slash ▸ List.getLast_mem letters)
  rw [← partsOf_pushName given named, partsOf, toList_eq_trunk noSlash, trunkParts]

theorem pushName_ne_empty (given : base ≠ "") (name : String) : pushName base name ≠ "" := by
  intro empty
  have letters := toList_pushName given name
  simp [empty] at letters

theorem head?_pushName (given : base ≠ "") (name : String) :
    (pushName base name).toList.head? = base.toList.head? := by
  obtain ⟨first, others, split⟩ : ∃ first others, base.toList = first :: others :=
    List.exists_cons_of_ne_nil (by simpa using given)
  rw [pushName]
  split <;> simp [split]

theorem joinPath_ne_empty (given : base ≠ "") (names : List String) : joinPath base names ≠ "" := by
  induction names generalizing base with
  | nil => exact given
  | cons name names ih => exact ih (pushName_ne_empty given name)

theorem startOf_joinPath (given : base ≠ "") (location names : List String) :
    startOf location (joinPath base names) = startOf location base := by
  induction names generalizing base with
  | nil => rfl
  | cons name names ih =>
      refine (ih (pushName_ne_empty given name)).trans ?_
      rw [startOf, head?_pushName given name, startOf]

theorem trunkParts_joinPath (given : base ≠ "") (named : ∀ name ∈ names, IsEntryName name) :
    trunkParts (joinPath base names) = trunkParts base ++ names := by
  induction names generalizing base with
  | nil => simp [joinPath]
  | cons name names ih =>
      rw [List.forall_mem_cons] at named
      calc trunkParts (joinPath (pushName base name) names)
          = trunkParts (pushName base name) ++ names := ih (pushName_ne_empty given name) named.2
        _ = trunkParts base ++ name :: names := by
            rw [trunkParts_pushName given named.1, List.append_assoc, List.singleton_append]

theorem partsOf_joinPath (given : base ≠ "") {last : String}
    (named : ∀ name ∈ names ++ [last], IsEntryName name) :
    partsOf (joinPath base (names ++ [last])) = trunkParts base ++ (names ++ [last]) := by
  rw [List.forall_mem_append] at named
  rw [joinPath, List.foldl_append]
  calc partsOf (pushName (joinPath base names) last)
      = trunkParts (joinPath base names) ++ [last] :=
        partsOf_pushName (joinPath_ne_empty given names) (named.2 last List.mem_cons_self)
    _ = trunkParts base ++ (names ++ [last]) := by
        rw [trunkParts_joinPath given named.1, List.append_assoc]

end FileTree

namespace Component

open FileTree

variable {base name : String} {names : List String}

theorem leading_partsOf (given : base ≠ "") (last : String) :
    leading (partsOf base) = leading (trunkParts base ++ [last]) := by
  obtain ⟨first, others, start⟩ : ∃ first others, trunkParts base = first :: others :=
    List.exists_cons_of_ne_nil (by simp [trunkParts])
  rcases partsOf_eq_or base with parts | parts
  · have notEmpty : ¬(first = "" ∧ others = []) := by
      rintro ⟨rfl, rfl⟩
      exact partsOf_ne_singleton_empty given (parts.trans start)
    rw [parts, start]
    by_cases slash : first = ""
    · have others : others ≠ [] := fun alone => notEmpty ⟨slash, alone⟩
      simp [leading, others]
    · simp [leading, slash]
  · simp [leading, parts, start]

theorem filterMap_partsOf (path : String) :
    (partsOf path).filterMap ofPart? = (trunkParts path).filterMap ofPart? := by
  rcases partsOf_eq_or path with parts | parts <;> simp [parts, ofPart?]

theorem ofPart?_name (named : IsEntryName name) : ofPart? name = some (.name name) := by
  rw [ofPart?, if_neg (by simp [named.nonempty, named.notDot]), if_neg named.notDots]

theorem ofPath_pushName (given : base ≠ "") (named : IsEntryName name) :
    ofPath (pushName base name) = ofPath base ++ [.name name] := by
  rw [ofPath, ofPath, leading_partsOf given name, filterMap_partsOf base,
    partsOf_pushName given named, List.filterMap_append, List.append_assoc]
  simp [ofPart?_name named]

theorem ofPath_joinPath (given : base ≠ "") (named : ∀ name ∈ names, IsEntryName name) :
    ofPath (joinPath base names) = ofPath base ++ names.map .name := by
  induction names generalizing base with
  | nil => simp [joinPath]
  | cons name names ih =>
      rw [List.forall_mem_cons] at named
      calc ofPath (joinPath (pushName base name) names)
          = ofPath (pushName base name) ++ names.map .name :=
            ih (pushName_ne_empty given name) named.2
        _ = ofPath base ++ (name :: names).map .name := by
            rw [ofPath_pushName given named.1, List.append_assoc]
            rfl

end Component
end TrickLedger
