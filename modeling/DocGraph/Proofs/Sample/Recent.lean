import DocGraph.Proofs.FileSystem.Locate
import DocGraph.Sample.Sampler
import DocGraph.Scan.Inspection
import Mathlib

/-!
# The files modified last

The files that were modified last come first, and files that were modified at the same time stay in
order. A file of which nothing can be found out counts as modified before all others. So with their
positions files are in a strict order, and the sample has the first ones of that order:
`exists_pickRecent`. This is so whatever the file system says about each path, so nothing is assumed
about it here: what it says is a function of the text of a path.

A path with a null character is not even asked for. One such path is enough for there to be no sample.
Of the sites that are modelled here, `Site.modified_eq_nullCharacter_iff` says that there is no other
way to be refused.
-/

set_option autoImplicit false

namespace DocGraph

/-! ## The first elements of a sorted list -/

section Front

variable {α : Type} {le : α → α → Bool}

/-- The first elements of a list once it is sorted, with the positions that they had. -/
def front (le : α → α → Bool) (count : Nat) (xs : List α) : List (α × Nat) :=
  (xs.zipIdx.mergeSort (List.zipIdxLE le)).take count

/-- No position is taken twice. -/
theorem front_subperm (le : α → α → Bool) (count : Nat) (xs : List α) :
    (front le count xs).Subperm xs.zipIdx :=
  (List.take_sublist _ _).subperm.trans (List.mergeSort_perm _ _).subperm

/-- As many elements are taken as there are to be, or all. -/
theorem length_front (le : α → α → Bool) (count : Nat) (xs : List α) :
    (front le count xs).length = min count xs.length := by
  rw [front, List.length_take, List.length_mergeSort, List.length_zipIdx]

/-- Without their positions, these are the first elements of the sorted list. -/
theorem map_front (le : α → α → Bool) (count : Nat) (xs : List α) :
    (front le count xs).map Prod.fst = (xs.mergeSort le).take count := by
  rw [front, List.map_take]
  exact congrArg (List.take count) List.mergeSort_zipIdx

/-- Of two elements that are each no greater than the other one, the first one goes first. -/
theorem zipIdxLE_iff {a b : α × Nat} :
    List.zipIdxLE le a b = true ↔
      le a.1 b.1 = true ∧ (le b.1 a.1 = true → a.2 ≤ b.2) := by
  unfold List.zipIdxLE
  by_cases up : le a.1 b.1 = true
  · by_cases down : le b.1 a.1 = true
    · simp [up, down]
    · simp [up, down]
  · simp [up]

/-- The sorted list is cut in two. What is in front is in order, and goes before what is not. -/
theorem front_ordered (trans : ∀ a b c, le a b = true → le b c = true → le a c = true)
    (total : ∀ a b, (le a b || le b a) = true) (count : Nat) (xs : List α) :
    (front le count xs).Pairwise (fun a b => List.zipIdxLE le a b = true ∧ a.2 ≠ b.2) ∧
      ∀ b ∈ xs.zipIdx, b ∉ front le count xs → ∀ a ∈ front le count xs,
        List.zipIdxLE le a b = true ∧ a.2 ≠ b.2 := by
  have ordered := List.pairwise_mergeSort (List.zipIdxLE_trans trans) (List.zipIdxLE_total total)
    xs.zipIdx
  have distinct : ((xs.zipIdx.mergeSort (List.zipIdxLE le)).map Prod.snd).Nodup :=
    ((List.mergeSort_perm _ _).map Prod.snd).nodup_iff.mpr (List.nodup_zipIdx_map_snd xs)
  have strictly := ordered.and (List.pairwise_map.mp distinct)
  rw [← List.take_append_drop count (xs.zipIdx.mergeSort (List.zipIdxLE le))] at strictly
  obtain ⟨within, -, across⟩ := List.pairwise_append.mp strictly
  refine ⟨within, fun b listed left a chosen => across a chosen b ?_⟩
  have sorted : b ∈ xs.zipIdx.mergeSort (List.zipIdxLE le) := List.mem_mergeSort.mpr listed
  rw [← List.take_append_drop count (xs.zipIdx.mergeSort (List.zipIdxLE le))] at sorted
  exact (List.mem_append.mp sorted).resolve_left left

end Front

/-! ## Times -/

/-- A time is later than another one. Any time is later than an unknown one. -/
def IsLater : Option Rat → Option Rat → Prop
  | some a, some b => b < a
  | some _, none => True
  | none, _ => False

/-- No earlier is later or the same. -/
theorem isNoEarlier_iff {a b : Option Rat} : isNoEarlier a b = true ↔ IsLater a b ∨ a = b := by
  cases a with
  | none => cases b <;> simp [isNoEarlier, IsLater]
  | some x =>
    cases b with
    | none => simp [isNoEarlier, IsLater]
    | some y =>
      change decide (y ≤ x) = true ↔ y < x ∨ some x = some y
      rw [decide_eq_true_eq, le_iff_lt_or_eq, Option.some.injEq, @eq_comm _ y]

/-- Times are compared transitively. -/
theorem isNoEarlier_trans (a b c : Option Rat) (first : isNoEarlier a b = true)
    (second : isNoEarlier b c = true) : isNoEarlier a c = true := by
  cases c with
  | none => cases a <;> rfl
  | some z =>
    cases b with
    | none => cases second
    | some y =>
      cases a with
      | none => cases first
      | some x =>
        simp only [isNoEarlier, decide_eq_true_eq] at first second ⊢
        exact second.trans first

/-- Of two times the one is no earlier than the other. -/
theorem isNoEarlier_total (a b : Option Rat) : (isNoEarlier a b || isNoEarlier b a) = true := by
  cases a with
  | none => cases b <;> rfl
  | some x =>
    cases b with
    | none => rfl
    | some y => simpa [isNoEarlier] using le_total y x

/-! ## The files modified last -/

section Times

variable (modified : String → Except SystemFault Rat)

/-- When a file was modified, if the file system says so. -/
def timeOf (file : String) : Option Rat :=
  (modified file).toOption

/-- Of two files at positions, one goes before the other if it was modified later, or at the same time
and stands before the other. -/
def GoesBefore (a b : String × Nat) : Prop :=
  IsLater (timeOf modified a.1) (timeOf modified b.1) ∨
    timeOf modified a.1 = timeOf modified b.1 ∧ a.2 < b.2

/-- What goes before another one by its time and, at the same time, by its position. -/
theorem goesBefore_of_ordered {a b : String × Nat}
    (ordered : List.zipIdxLE (fun x y => isNoEarlier (timeOf modified x) (timeOf modified y)) a b = true)
    (apart : a.2 ≠ b.2) : GoesBefore modified a b := by
  obtain ⟨noEarlier, ties⟩ := zipIdxLE_iff.mp ordered
  rcases isNoEarlier_iff.mp noEarlier with later | same
  · exact Or.inl later
  · have back : isNoEarlier (timeOf modified b.1) (timeOf modified a.1) = true :=
      isNoEarlier_iff.mpr (Or.inr same.symm)
    exact Or.inr ⟨same, lt_of_le_of_ne (ties back) apart⟩

end Times

/-- A site refuses to be asked about the texts with a null character, and about no others. -/
theorem Site.modified_eq_nullCharacter_iff (site : Site) (text : String) :
    site.modified text = .error .nullCharacter ↔ '\x00' ∈ text.toList := by
  have located : site.files.locateText text = .error .nullCharacter ↔ '\x00' ∈ text.toList := by
    unfold FileSystem.locateText
    by_cases null : '\x00' ∈ text.toList
    · simp [null]
    · rw [if_neg (by simpa using null)]
      refine iff_of_false ?_ null
      split
      · simp
      · split
        · simp
        · exact site.files.locateFrom_ne_nullCharacter _ _ _ _ _
  rw [← located]
  unfold Site.modified
  cases found : site.files.locateText text with
  | error fault => simp
  | ok entry =>
    refine iff_of_false ?_ (by simp)
    cases reported : site.obstacles.status (Path.ofString text) with
    | none => cases entry <;> simp [reported]
    | some fault =>
      -- What the file system reports has a number.
      have coded := fault.2
      intro same
      simp only [reported, Except.error.injEq] at same
      rw [same] at coded
      cases coded

namespace Sampler

variable {modified : String → Except SystemFault Rat}

/-- The time that a file is sorted by is when it was modified, unless it may not be asked about. -/
theorem sortTime_cases (modified : String → Except SystemFault Rat) (file : String) :
    sortTime modified file = .ok (timeOf modified file) ∧
        modified file ≠ .error .nullCharacter ∨
      sortTime modified file = .error .nullCharacter ∧
        modified file = .error .nullCharacter := by
  unfold sortTime timeOf
  split
  next known => exact Or.inl ⟨by rw [known]; rfl, by simp [known]⟩
  next refused => exact Or.inr ⟨rfl, refused⟩
  next fault other unknown =>
    refine Or.inl ⟨by rw [unknown]; rfl, fun refused => ?_⟩
    rw [unknown] at refused
    exact other (Except.error.inj refused)

/-- The times of files are found out one by one, unless one of them may not be asked about. -/
theorem mapM_sortTime (files : List String) :
    (files.mapM fun file => do return (← sortTime modified file, file)) =
      if ∃ file ∈ files, modified file = .error .nullCharacter then .error .nullCharacter
      else .ok (files.map fun file => (timeOf modified file, file)) := by
  induction files with
  | nil => rfl
  | cons file rest ih =>
    rw [List.mapM_cons, ih]
    simp only [List.exists_mem_cons_iff]
    rcases sortTime_cases modified file with ⟨known, answered⟩ | ⟨failed, refused⟩
    · rw [known]
      by_cases later : ∃ file ∈ rest, modified file = .error .nullCharacter
      · rw [if_pos later, if_pos (Or.inr later)]
        rfl
      · rw [if_neg later, if_neg (not_or.mpr ⟨answered, later⟩)]
        rfl
    · rw [failed, if_pos (Or.inl refused)]
      rfl

/-- The files modified last are picked, unless one of the files may not be asked about. Each position
is picked at most once, and in the order of the files: those that are picked are in order, and go before
those that are not. -/
theorem exists_pickRecent (modified : String → Except SystemFault Rat) {size : Int}
    (nonneg : 0 ≤ size) (files : List String) :
    if ∃ file ∈ files, modified file = .error .nullCharacter then
      pickRecent modified size files = .error .nullCharacter
    else ∃ chosen : List (String × Nat), pickRecent modified size files = .ok (chosen.map Prod.fst) ∧
      chosen.Subperm files.zipIdx ∧ chosen.length = min size.toNat files.length ∧
      chosen.Pairwise (GoesBefore modified) ∧
      ∀ b ∈ files.zipIdx, b ∉ chosen → ∀ a ∈ chosen, GoesBefore modified a b := by
  unfold pickRecent
  rw [mapM_sortTime]
  split
  · rfl
  · let newer (x y : String) : Bool := isNoEarlier (timeOf modified x) (timeOf modified y)
    have trans : ∀ a b c, newer a b = true → newer b c = true → newer a c = true :=
      fun a b c => isNoEarlier_trans _ _ _
    have total : ∀ a b, (newer a b || newer b a) = true := fun a b => isNoEarlier_total _ _
    obtain ⟨within, across⟩ := front_ordered trans total size.toNat files
    refine ⟨front newer size.toNat files, ?_, front_subperm .., length_front .., ?_, ?_⟩
    · have sorted : (files.map fun file => (timeOf modified file, file)).mergeSort
          (fun a b => isNoEarlier a.1 b.1) =
            (files.mergeSort newer).map fun file => (timeOf modified file, file) :=
        (List.map_mergeSort (f := fun file => (timeOf modified file, file)) (r := newer)
          (s := fun a b => isNoEarlier a.1 b.1) fun _ _ _ _ => rfl).symm
      rw [map_front]
      change Except.ok ((takeSigned size ((files.map fun file => (timeOf modified file, file)).mergeSort
        fun a b => isNoEarlier a.1 b.1)).map Prod.snd) = _
      rw [sorted, takeSigned, if_pos nonneg, ← List.map_take, List.map_map]
      exact congrArg Except.ok (List.map_id _)
    · exact within.imp fun h => goesBefore_of_ordered modified h.1 h.2
    · intro b listed left a chosen
      obtain ⟨ordered, apart⟩ := across b listed left a chosen
      exact goesBefore_of_ordered modified ordered apart

end Sampler

end DocGraph
