import SourceGen.Files.Tree
import SourceGen.Proofs.OrderedMap

/-!
# Contents of directory trees

What stands at given names from the root of a tree, seen before and after writing. Adding folders puts
folders where nothing was and changes nothing else; putting a file in a folder replaces what that file held
and nothing else.
-/

namespace SourceGen.Files

/-- What a place holds, apart from what stands in a folder. -/
inductive Holding where
  | nothing
  | folder
  | file (content : ByteArray)

namespace Holding

/-- A place on the way may hold a folder where it held nothing; any other place holds what it held. -/
inductive Grown (onWay : Prop) : Holding → Holding → Prop
  | same (holding : Holding) : Grown onWay holding holding
  | folder (h : onWay) : Grown onWay .nothing .folder

namespace Grown

variable {onWay : Prop} {first second third : Holding}

theorem mono {further : Prop} (h : Grown onWay first second) (hfurther : onWay → further) :
    Grown further first second := by
  cases h with
  | same => exact .same _
  | folder hway => exact .folder (hfurther hway)

theorem trans (h : Grown onWay first second) (hnext : Grown onWay second third) :
    Grown onWay first third := by
  cases h with
  | same => exact hnext
  | folder hway =>
    cases hnext
    exact .folder hway

theorem eq_of_ne_nothing (h : Grown onWay first second) (hfirst : first ≠ .nothing) :
    second = first := by
  cases h with
  | same => rfl
  | folder => exact absurd rfl hfirst

end Grown

end Holding

namespace Node

/-- What names from the folder lead to. -/
def at? (node : Node) : List String → Option Node
  | [] => some node
  | name :: rest => (node.child? name).bind (at? · rest)

def holding : Node → Holding
  | .file content => .file content
  | .folder _ => .folder

/-- What the place at the names holds. -/
def holds (node : Node) (names : List String) : Holding :=
  ((node.at? names).map holding).getD .nothing

variable {node after : Node} {names : List String}

theorem at?_append (node : Node) (front back : List String) :
    node.at? (front ++ back) = (node.at? front).bind (at? · back) := by
  induction front generalizing node with
  | nil => rfl
  | cons name rest ih =>
    rw [List.cons_append, at?, at?, Option.bind_assoc]
    exact congrArg _ (funext fun inner ↦ ih inner)

theorem holds_cons (node : Node) (name : String) (rest : List String) :
    node.holds (name :: rest) = ((node.child? name).map (holds · rest)).getD .nothing := by
  rw [holds, at?]
  cases node.child? name <;> rfl

theorem holding_ne_nothing (node : Node) : node.holding ≠ .nothing := by
  cases node <;> nofun

theorem holding_eq_folder_iff : node.holding = .folder ↔ node.isFolder = true := by
  cases node <;> simp [holding, isFolder]

theorem at?_of_holds_file {content : ByteArray} (h : node.holds names = .file content) :
    node.at? names = some (file content) := by
  rw [holds] at h
  cases hat : node.at? names with
  | none => simp [hat] at h
  | some inner =>
    cases inner with
    | folder entries => simp [hat, holding] at h
    | file held =>
      rw [hat] at h
      cases h
      rfl

/-- Only a folder stands before other names. -/
theorem holding_of_holds_cons {name : String} {rest : List String}
    (h : node.holds (name :: rest) ≠ .nothing) : node.holding = .folder := by
  cases node with
  | file content => exact absurd rfl h
  | folder entries => rfl

theorem holds_folder_of_front {front : List String} (h : node.holds names = .folder)
    (hfront : front <+: names) : node.holds front = .folder := by
  induction front generalizing node names with
  | nil =>
    cases names with
    | nil => exact h
    | cons name rest =>
      have hsome : node.holds (name :: rest) ≠ .nothing := by
        rw [h]
        nofun
      exact holding_of_holds_cons hsome
  | cons name front ih =>
    obtain ⟨back, rfl⟩ := hfront
    rw [List.cons_append, holds_cons] at h
    rw [holds_cons]
    cases hchild : node.child? name with
    | none => simp [hchild] at h
    | some inner =>
      rw [hchild] at h
      exact ih h (List.prefix_append front back)

theorem child?_put (entries : Entries Node) (name other : String) (inner : Node) :
    (folder (Entries.put name inner entries)).child? other =
      if name = other then some inner else (folder entries).child? other :=
  Entries.get?_alter name other (fun _ ↦ inner) entries

/-! ## Folders on the way -/

theorem exists_of_addFolders_cons {name : String} {rest : List String}
    (h : node.addFolders (name :: rest) = some after) :
    ∃ entries inner, node = folder entries ∧
      ((node.child? name).getD (folder [])).addFolders rest = some inner ∧
        after = folder (Entries.put name inner entries) := by
  cases node with
  | file content => cases h
  | folder entries =>
    rw [addFolders] at h
    split at h
    · cases h
    · obtain ⟨inner, hinner, hafter⟩ := Option.bind_eq_some_iff.mp h
      cases hafter
      exact ⟨entries, inner, rfl, hinner, rfl⟩

theorem eq_of_addFolders_nil (h : node.addFolders [] = some after) :
    after = node ∧ node.isFolder = true := by
  rw [addFolders] at h
  split at h
  · next hfolder =>
    cases h
    exact ⟨rfl, hfolder⟩
  · cases h

theorem grown_addFolders (h : node.addFolders names = some after) (other : List String) :
    Holding.Grown (other <+: names) (node.holds other) (after.holds other) := by
  induction names generalizing node after other with
  | nil =>
    rw [(eq_of_addFolders_nil h).1]
    exact .same _
  | cons name rest ih =>
    obtain ⟨entries, inner, rfl, hinner, rfl⟩ := exists_of_addFolders_cons h
    cases other with
    | nil => exact .same _
    | cons next more =>
      rw [holds_cons, holds_cons, child?_put]
      split
      · next heq =>
        subst heq
        have hcons : more <+: rest → name :: more <+: name :: rest :=
          fun hmore ↦ List.cons_prefix_cons.mpr ⟨rfl, hmore⟩
        have hinner := (ih hinner more).mono hcons
        cases hchild : (folder entries).child? name with
        | some present =>
          rw [hchild] at hinner
          exact hinner
        | none =>
          rw [hchild] at hinner
          -- The new folder is empty, so all that it can hold has been added with it.
          cases more with
          | nil =>
            have hfolder : inner.holds [] = .folder := hinner.eq_of_ne_nothing nofun
            rw [Option.map_some, Option.getD_some, hfolder]
            exact .folder (hcons List.nil_prefix)
          | cons _ _ => exact hinner
      · exact .same _

theorem holds_addFolders (h : node.addFolders names = some after) {other : List String}
    (hother : other <+: names) : after.holds other = .folder := by
  refine holds_folder_of_front ?_ hother
  induction names generalizing node after other with
  | nil =>
    obtain ⟨rfl, hfolder⟩ := eq_of_addFolders_nil h
    exact holding_eq_folder_iff.mpr hfolder
  | cons name rest ih =>
    obtain ⟨entries, inner, rfl, hinner, rfl⟩ := exists_of_addFolders_cons h
    rw [holds_cons, child?_put, if_pos rfl]
    exact ih hinner (List.prefix_refl rest)

/-- The names lead to a place that is passed on the way along pieces, or to a folder around it. -/
def OnWay (done : List String) (pieces : List (List Char)) (names : List String) : Prop :=
  ∃ passed, passed <+: pieces ∧ names <+: namesAlong done passed

theorem grown_addFoldersAlong {done : List String} {pieces : List (List Char)}
    (h : node.addFoldersAlong done pieces = some after) (other : List String) :
    Holding.Grown (OnWay done pieces other) (node.holds other) (after.holds other) := by
  induction pieces generalizing node done with
  | nil =>
    cases h
    exact .same _
  | cons piece rest ih =>
    have hcons : ∀ passed, passed <+: rest → other <+: namesAlong done (piece :: passed) →
        OnWay done (piece :: rest) other :=
      fun passed hpassed hother ↦ ⟨_, List.cons_prefix_cons.mpr ⟨rfl, hpassed⟩, hother⟩
    rw [addFoldersAlong] at h
    simp only [namesAlong] at hcons
    by_cases hvoid : isVoid piece = true
    · simp only [if_pos hvoid] at h hcons
      exact (ih h).mono fun ⟨passed, hpassed, hother⟩ ↦ hcons passed hpassed hother
    · simp only [if_neg hvoid] at h hcons
      by_cases hup : (piece == ['.', '.']) = true
      · simp only [if_pos hup] at h hcons
        exact (ih h).mono fun ⟨passed, hpassed, hother⟩ ↦ hcons passed hpassed hother
      · simp only [if_neg hup] at h hcons
        obtain ⟨grown, hgrown, hrest⟩ := Option.bind_eq_some_iff.mp h
        exact ((grown_addFolders hgrown other).mono fun hother ↦ hcons [] List.nil_prefix hother).trans
          ((ih hrest).mono fun ⟨passed, hpassed, hother⟩ ↦ hcons passed hpassed hother)

/-- Every place that is passed on the way is a folder afterwards. -/
theorem holds_addFoldersAlong {done : List String} {pieces : List (List Char)}
    (h : node.addFoldersAlong done pieces = some after) (hdone : node.holds done.reverse = .folder)
    {passed : List (List Char)} (hpassed : passed <+: pieces) :
    after.holds (namesAlong done passed) = .folder := by
  induction pieces generalizing node done passed with
  | nil =>
    cases h
    rw [List.prefix_nil.mp hpassed]
    exact hdone
  | cons piece rest ih =>
    cases passed with
    | nil =>
      have hkept := (grown_addFoldersAlong h done.reverse).eq_of_ne_nothing (hdone ▸ nofun)
      exact hkept.trans hdone
    | cons first passed =>
      obtain ⟨rfl, hbehind⟩ := List.cons_prefix_cons.mp hpassed
      rw [addFoldersAlong] at h
      rw [namesAlong]
      by_cases hvoid : isVoid first = true
      · rw [if_pos hvoid] at h ⊢
        exact ih h hdone hbehind
      · rw [if_neg hvoid] at h ⊢
        by_cases hup : (first == ['.', '.']) = true
        · rw [if_pos hup] at h ⊢
          refine ih h (holds_folder_of_front hdone ?_) hbehind
          rw [List.reverse_prefix]
          exact List.tail_suffix done
        · rw [if_neg hup] at h ⊢
          obtain ⟨grown, hgrown, hrest⟩ := Option.bind_eq_some_iff.mp h
          exact ih hrest (holds_addFolders hgrown (List.prefix_refl _)) hbehind

/-! ## Putting a file -/

/-- A file takes its place among the entries of a folder that is there. -/
theorem exists_of_putFile_nil {name : String} {content : ByteArray}
    (h : node.putFile name content [] = some after) :
    ∃ entries, node = folder entries ∧ (node.child? name).any isFolder = false ∧
      after = folder (Entries.put name (file content) entries) := by
  cases node with
  | file _ => cases h
  | folder entries =>
    rw [putFile] at h
    split at h
    · cases h
    · next hfree =>
      cases h
      rw [Bool.or_eq_true, not_or, Bool.not_eq_true] at hfree
      exact ⟨entries, rfl, hfree.1, rfl⟩

theorem exists_of_putFile_cons {name step : String} {content : ByteArray} {rest : List String}
    (h : node.putFile name content (step :: rest) = some after) :
    ∃ entries inner later, node = folder entries ∧ node.child? step = some inner ∧
      inner.putFile name content rest = some later ∧
        after = folder (Entries.put step later entries) := by
  cases node with
  | file _ => cases h
  | folder entries =>
    rw [putFile] at h
    obtain ⟨inner, hinner, h⟩ := Option.bind_eq_some_iff.mp h
    obtain ⟨later, hlater, hafter⟩ := Option.bind_eq_some_iff.mp h
    cases hafter
    exact ⟨entries, inner, later, rfl, hinner, hlater, rfl⟩

theorem isFolder_of_putFile {name : String} {content : ByteArray} {place : List String}
    (h : node.putFile name content place = some after) : node.isFolder = true := by
  cases node with
  | file _ => cases place <;> cases h
  | folder entries => rfl

/-- Names that go on where no folder stands lead nowhere. -/
theorem holds_cons_cons_of_child? {name next : String} {rest : List String}
    (h : (node.child? name).any isFolder = false) : node.holds (name :: next :: rest) = .nothing := by
  rw [holds_cons]
  cases hchild : node.child? name with
  | none => rfl
  | some inner =>
    cases inner with
    | file content => rfl
    | folder entries => simp [hchild, isFolder] at h

theorem holds_putFile {name : String} {content : ByteArray} {place : List String}
    (h : node.putFile name content place = some after) (other : List String) :
    after.holds other = if other = place ++ [name] then .file content else node.holds other := by
  induction place generalizing node after other with
  | nil =>
    obtain ⟨entries, rfl, hfree, rfl⟩ := exists_of_putFile_nil h
    cases other with
    | nil => rfl
    | cons next more =>
      by_cases hnext : name = next
      · subst hnext
        cases more with
        | nil =>
          rw [holds_cons, child?_put, if_pos rfl, List.nil_append, if_pos rfl]
          rfl
        | cons further more =>
          rw [holds_cons_cons_of_child? hfree, holds_cons, child?_put, if_pos rfl, if_neg (by simp)]
          rfl
      · rw [holds_cons, holds_cons, child?_put, if_neg hnext, if_neg (by simp [Ne.symm hnext])]
  | cons step rest ih =>
    obtain ⟨entries, inner, later, rfl, hinner, hlater, rfl⟩ := exists_of_putFile_cons h
    cases other with
    | nil => rfl
    | cons next more =>
      by_cases hnext : step = next
      · subst hnext
        rw [holds_cons, holds_cons, child?_put, if_pos rfl, hinner, Option.map_some, Option.map_some,
          Option.getD_some, Option.getD_some, ih hlater]
        simp only [List.cons_append, List.cons.injEq, true_and]
      · rw [holds_cons, holds_cons, child?_put, if_neg hnext, if_neg (by simp [Ne.symm hnext])]

/-- A file is not put where a folder stands. -/
theorem holds_ne_folder_of_putFile {name : String} {content : ByteArray} {place : List String}
    (h : node.putFile name content place = some after) :
    node.holds (place ++ [name]) ≠ .folder := by
  induction place generalizing node after with
  | nil =>
    obtain ⟨entries, rfl, hfree, -⟩ := exists_of_putFile_nil h
    rw [List.nil_append, holds_cons]
    cases hchild : (folder entries).child? name with
    | none => nofun
    | some inner =>
      rw [hchild, Option.any_some] at hfree
      exact mt holding_eq_folder_iff.mp (by simp [hfree])
  | cons step rest ih =>
    obtain ⟨entries, inner, later, rfl, hinner, hlater, -⟩ := exists_of_putFile_cons h
    rw [List.cons_append, holds_cons, hinner]
    exact ih hlater

end Node

end SourceGen.Files
