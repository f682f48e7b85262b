import Mathlib.Data.List.TakeWhile
import Debugger.Wire.Signature

/-! # Class names in signatures

A class is asked for by the signature that is made of its name, and is shown by the name that is made of its
signature.  The name comes back unless it begins with the letter that announces class names: every such letter in
front is taken for the announcement.
-/

namespace Debugger.Wire.Signature

/-- The brackets in front of the signature of an array. -/
def brackets (dimensions : Nat) : String := String.ofList (List.replicate dimensions '[')

/-- The pairs of brackets behind the name of an array. -/
def bracketPairs (dimensions : Nat) : String := String.ofList (List.replicate dimensions ['[', ']']).flatten

/-- The name without every `L` that it begins with. -/
def withoutFront (name : String) : String := String.ofList (name.toList.dropWhile (· = 'L'))

/-- A package is set off by a slash. -/
private def slashed (c : Char) : Char := if c = '.' then '/' else c

private def dotted (c : Char) : Char := if c = '/' then '.' else c

variable {name : String}

private theorem slashed_eq_iff {c d : Char} (hc : d ≠ '/') (hd : d ≠ '.') : slashed c = d ↔ c = d := by
  rw [slashed]
  split
  · rename_i dot
    subst dot
    exact ⟨fun h => (hc h.symm).elim, fun h => (hd h.symm).elim⟩
  · rfl

private theorem dotted_slashed {c : Char} (h : c ≠ '/') : dotted (slashed c) = c := by
  rw [slashed]
  split
  · rename_i dot
    rw [dot]
    rfl
  · rw [dotted, if_neg h]

theorem toList_ofClassName (closed : ';' ∉ name.toList) :
    (ofClassName name).toList = 'L' :: (name.toList.map slashed ++ [';']) := by
  have other : ¬ name.toList.getLast? = some ';' := fun last => closed (List.mem_of_getLast? last)
  simp [ofClassName, other, slashed]

private theorem dropWhile_map_slashed (cs : List Char) :
    (cs.map slashed).dropWhile (· = 'L') = (cs.dropWhile (· = 'L')).map slashed := by
  rw [List.dropWhile_map]
  congr 2
  funext c
  simp [slashed_eq_iff]

/-- Of the characters behind the front the last one is a semicolon, and no other one is. -/
private theorem stripped {cs : List Char} (closed : ';' ∉ cs) :
    ((cs ++ [';']).reverse.dropWhile (· = ';')).reverse = cs := by
  rw [List.reverse_append]
  have kept : cs.reverse.dropWhile (· = ';') = cs.reverse := by
    rw [List.dropWhile_eq_self_iff]
    intro hl last
    exact closed (List.mem_reverse.mp (of_decide_eq_true last ▸ List.getElem_mem hl))
  simp [kept]

theorem elementName_ofClassName (unslashed : '/' ∉ name.toList) (closed : ';' ∉ name.toList) :
    elementName (ofClassName name).toList = name.toList.dropWhile (· = 'L') := by
  have front : ('L' :: (name.toList.map slashed ++ [';'])).dropWhile (· = 'L') =
      (name.toList.dropWhile (· = 'L')).map slashed ++ [';'] := by
    rw [List.dropWhile_cons_of_pos (by simp), List.dropWhile_append, dropWhile_map_slashed]
    split
    · rename_i nothing
      rw [List.isEmpty_iff.mp nothing]
      rfl
    · rfl
  have suffix := List.dropWhile_suffix (· = 'L') (l := name.toList)
  have open' : ';' ∉ (name.toList.dropWhile (· = 'L')).map slashed := by
    rintro there
    obtain ⟨c, hc, same⟩ := List.mem_map.mp there
    rw [slashed_eq_iff (by decide) (by decide)] at same
    exact closed (suffix.subset (same ▸ hc))
  rw [toList_ofClassName closed, elementName, front, stripped open', List.map_map]
  refine (List.map_congr_left fun c hc => ?_).trans (List.map_id _)
  exact dotted_slashed fun slash => unslashed (suffix.subset (slash ▸ hc))

theorem typeName_brackets {signature : String} (dimensions : Nat) (element : signature.toList.head? ≠ some '[') :
    typeName (brackets dimensions ++ signature) =
      String.ofList (elementName signature.toList) ++ bracketPairs dimensions := by
  have kept : signature.toList.dropWhile (· = '[') = signature.toList := by
    cases same : signature.toList with
    | nil => rfl
    | cons c cs =>
      rw [same] at element
      exact List.dropWhile_cons_of_neg fun h => element (congrArg some (of_decide_eq_true h))
  have dropped : (brackets dimensions ++ signature).toList.dropWhile (· = '[') = signature.toList := by
    rw [String.toList_append, brackets, String.toList_ofList, List.dropWhile_append,
      List.dropWhile_replicate, kept]
    simp
  rw [typeName]
  simp only [dropped]
  simp [brackets, bracketPairs, String.ofList_append]

private theorem withoutFront_eq_iff : withoutFront name = name ↔ name.toList.head? ≠ some 'L' := by
  rw [← String.toList_inj, withoutFront, String.toList_ofList]
  cases name.toList with
  | nil => simp
  | cons c cs =>
    rw [List.dropWhile_eq_self_iff]
    simp

/-- The signature that is made of a class name gives back the name but for every `L` that it begins with; so the name
comes back as it was exactly if it does not begin with an `L`.  Behind the brackets of so many dimensions it is
followed by as many pairs of brackets. -/
theorem class_name_returns_iff (unslashed : '/' ∉ name.toList) (closed : ';' ∉ name.toList) :
    typeName (ofClassName name) = withoutFront name ∧
      (typeName (ofClassName name) = name ↔ name.toList.head? ≠ some 'L') ∧
      ∀ dimensions, typeName (brackets dimensions ++ ofClassName name) = withoutFront name ++ bracketPairs dimensions ∧
        (typeName (brackets dimensions ++ ofClassName name) = name ++ bracketPairs dimensions ↔
          name.toList.head? ≠ some 'L') := by
  have element : (ofClassName name).toList.head? ≠ some '[' := by
    rw [toList_ofClassName closed]
    simp
  have given (dimensions : Nat) :
      typeName (brackets dimensions ++ ofClassName name) = withoutFront name ++ bracketPairs dimensions := by
    rw [typeName_brackets dimensions element, elementName_ofClassName unslashed closed, withoutFront]
  have plain : typeName (ofClassName name) = withoutFront name := by
    have none_in_front := given 0
    rwa [brackets, bracketPairs, List.replicate_zero, List.replicate_zero, List.flatten_nil, String.ofList_nil,
      String.empty_append, String.append_empty] at none_in_front
  refine ⟨plain, by rw [plain, withoutFront_eq_iff], fun dimensions => ⟨given dimensions, ?_⟩⟩
  rw [given, String.append_left_inj, withoutFront_eq_iff]

/-- A name without that letter in front comes back, also from the signature of an array. -/
theorem inner_class_name_returns :
    typeName (brackets 2 ++ ofClassName "com.example.Foo$Inner") = "com.example.Foo$Inner" ++ bracketPairs 2 :=
  ((class_name_returns_iff (by decide) (by decide)).2.2 2).2.mpr (by decide)

/-- The class `Library` is shown by a name that is not its own. -/
theorem library_name_lost :
    typeName (ofClassName "Library") = "ibrary" ∧ typeName (ofClassName "Library") ≠ "Library" := by
  decide

end Debugger.Wire.Signature
