import DocGraph.Sample.Sampler
import DocGraph.Proofs.Grouping
import DocGraph.Proofs.Rounding
import DocGraph.Proofs.Sample.Choice

/-!
# The shares of directories

A stratified sample goes through the directories in order. Each of them wants some files, and it gets
them as long as there is room in the sample: `rooms`. A directory that is not the last one wants a share
in proportion to its files, and at least one file; the last one wants all its files, so that it takes
what is left. The share is a quotient in double precision, rounded down. With less than some 10⁸ files
that makes no difference: `Sampler.wanted_share`. `filled_pickShares` says that the sample is filled in
this way, whatever the generator gives.

From this `sample_stratified` says when the sample has the size that is asked for, and when every
directory is in it. Neither is always so. Shares are rounded down, and the last directory may have too
few files to make up for that; and directories that want one file, although their share would be less,
leave no room for the last ones.
-/

set_option autoImplicit false

namespace DocGraph

/-! ## What directories want and get -/

/-- The files of a directory. -/
def filesIn (files : List String) (directory : String) : List String :=
  files.filter fun file => directoryOf file = directory

/-- The directories of files, in order. -/
def directories (files : List String) : List String :=
  ((files.map directoryOf).eraseDups).mergeSort fun a b => !(b < a)

/-- How many files directories want, given how many they have. -/
def wants (size total : Nat) : List Nat → List Nat
  | [] => []
  | [count] => [count]
  | count :: rest => min count (Sampler.shareOf size total count) :: wants size total rest

/-- How many files directories get, one after the other, when there is room for so many. -/
def rooms (left : Nat) : List Nat → List Nat
  | [] => []
  | want :: rest => min want left :: rooms (left - want) rest

/-- The share of a directory is the whole part of the exact quotient, unless the numbers have more digits
than a double has. -/
theorem Sampler.shareOf_eq {size total count : Nat} (some_ : 0 < total)
    (small : size * count < 2 ^ 53) (few : total ≤ 2 ^ 53) :
    shareOf size total count = max 1 (size * count / total) := by
  rw [shareOf, Number.floor_nearest_div some_ small few, Int.toNat_natCast]

/-- A directory wants at least one file. -/
theorem Sampler.shareOf_pos (size total count : Nat) : 0 < shareOf size total count :=
  Nat.lt_of_lt_of_le Nat.one_pos (Nat.le_max_left _ _)

/-- What a directory that is not the last one wants. -/
theorem Sampler.wanted_share {size total count : Nat} (less : size ≤ total) (some_ : 0 < count)
    (within : count ≤ total) (small : size * count < 2 ^ 53) (few : total ≤ 2 ^ 53) :
    min count (shareOf size total count) = max 1 (size * count / total) := by
  have most : size * count / total ≤ count :=
    Nat.div_le_of_le_mul (Nat.mul_le_mul_right count less)
  rw [shareOf_eq (some_.trans_le within) small few]
  omega

/-- Every directory wants a number of files. -/
theorem length_wants (size total : Nat) (counts : List Nat) :
    (wants size total counts).length = counts.length := by
  fun_induction wants size total counts with
  | case1 => rfl
  | case2 count => rfl
  | case3 count rest _ ih => rw [List.length_cons, List.length_cons, ih]

/-- Directories with files want some. -/
theorem wants_pos {size total : Nat} {counts : List Nat} (some_ : ∀ count ∈ counts, 0 < count) :
    ∀ want ∈ wants size total counts, 0 < want := by
  fun_induction wants size total counts with
  | case1 => simp
  | case2 count => exact some_
  | case3 count rest _ ih =>
    obtain ⟨first, others⟩ := List.forall_mem_cons.mp some_
    exact List.forall_mem_cons.mpr
      ⟨Nat.lt_min.mpr ⟨first, Sampler.shareOf_pos size total count⟩, ih others⟩

/-- Where there is no room left, directories get nothing. -/
theorem rooms_zero (ws : List Nat) : rooms 0 ws = List.replicate ws.length 0 := by
  induction ws with
  | nil => rfl
  | cons want rest ih =>
    rw [rooms, Nat.zero_sub, ih, Nat.min_zero, List.length_cons, List.replicate_succ]

/-- Together directories get what they want, or what there is room for. -/
theorem sum_rooms (left : Nat) (ws : List Nat) : (rooms left ws).sum = min left ws.sum := by
  induction ws generalizing left with
  | nil => simp [rooms]
  | cons want rest ih =>
    rw [rooms, List.sum_cons, List.sum_cons, ih]
    omega

/-- The last directory gets something if the others leave room. -/
theorem rooms_pos_iff {ws : List Nat} (nonempty : ws ≠ []) (some_ : ∀ want ∈ ws, 0 < want)
    (left : Nat) : (∀ room ∈ rooms left ws, 0 < room) ↔ ws.dropLast.sum < left := by
  induction ws generalizing left with
  | nil => exact absurd rfl nonempty
  | cons want rest ih =>
    obtain ⟨first, others⟩ := List.forall_mem_cons.mp some_
    rw [rooms, List.forall_mem_cons]
    cases rest with
    | nil =>
      simp [rooms]
      omega
    | cons next rest =>
      have front : (want :: next :: rest).dropLast = want :: (next :: rest).dropLast := rfl
      rw [ih (by simp) others, front, List.sum_cons]
      omega

/-! ## The sample is filled -/

/-- Files are picked from each of some lists, as many as said. -/
inductive Filled : List (List String) → List Nat → List String → Prop
  | nil : Filled [] [] []
  | cons {files part more : List String} {others : List (List String)} {counts : List Nat}
      (part_ : part.Subperm files) (rest : Filled others counts more) :
      Filled (files :: others) (part.length :: counts) (part ++ more)

namespace Filled

variable {lists : List (List String)} {counts : List Nat} {picked : List String}

/-- A sample is a part of the files. -/
theorem subperm (h : Filled lists counts picked) : picked.Subperm lists.flatten := by
  induction h with
  | nil => exact List.nil_subperm
  | cons part_ _ ih =>
    rw [List.flatten_cons]
    exact part_.append ih

/-- A sample has as many files as the counts say. -/
theorem length (h : Filled lists counts picked) : picked.length = counts.sum := by
  induction h with
  | nil => rfl
  | cons _ _ ih => rw [List.length_append, List.sum_cons, ih]

/-- The empty sample is filled with no file of any directory. -/
theorem nothing (lists : List (List String)) :
    Filled lists (List.replicate lists.length 0) [] := by
  induction lists with
  | nil => exact .nil
  | cons files others ih =>
    have none_ : ([] : List String).Subperm files := List.nil_subperm
    exact .cons none_ ih

end Filled

namespace Sampler

/-- A random choice is a part of the files, as long as was asked for. -/
theorem pickAtRandom_subperm {files : List String} {count : Nat} (enough : count ≤ files.length)
    (g : Generator) : (pickAtRandom g files count).1.Subperm files ∧
      (pickAtRandom g files count).1.length = count := by
  rw [pickAtRandom]
  split
  next all => exact ⟨List.Subperm.refl files, Nat.le_antisymm all enough⟩
  next => exact ⟨Generator.choose_subperm enough g, Generator.length_choose enough g⟩

/-- The last directory wants all that it has. -/
theorem wants_cons (size total count : Nat) (rest : List Nat) :
    wants size total (count :: rest) =
      (if rest.isEmpty then count else min count (shareOf size total count)) ::
        wants size total rest := by
  cases rest <;> rfl

/-- What is picked of one directory, where there is room for so many. -/
theorem pick_subperm {files : List String} {count : Nat} (enough : count ≤ files.length)
    (g : Generator) :
    (if count = 0 then ([], g) else pickAtRandom g files count).1.Subperm files ∧
      (if count = 0 then ([], g) else pickAtRandom g files count).1.length = count := by
  split
  next none_ => exact ⟨List.nil_subperm, none_.symm⟩
  next => exact pickAtRandom_subperm enough g

/-- Each directory gets what it wants as long as there is room. -/
theorem filled_pickShares (size total : Nat) (groups : List (String × List String)) (left : Nat)
    (g : Generator) :
    Filled (groups.map Prod.snd) (rooms left (wants size total (groups.map fun e => e.2.length)))
      (pickShares size total left groups g).1 := by
  induction groups generalizing left g with
  | nil => exact .nil
  | cons e rest ih =>
    obtain ⟨directory, files⟩ := e
    have empty : (rest.map fun e => e.2.length).isEmpty = rest.isEmpty := by cases rest <;> rfl
    rw [List.map_cons, List.map_cons, wants_cons, empty, rooms, pickShares]
    generalize share_ : (if rest.isEmpty = true then files.length
      else min files.length (shareOf size total files.length)) = want
    -- The last directory is offered all that is left, and its files set the limit.
    have offered : min (min (if rest.isEmpty = true then left
        else shareOf size total files.length) files.length) left = min want left ∧
          min want left ≤ files.length := by
      rw [← share_]
      split <;> omega
    obtain ⟨count_, enough⟩ := offered
    dsimp only
    rw [count_]
    obtain ⟨part, length⟩ := pick_subperm enough g
    generalize (if min want left = 0 then ([], g) else pickAtRandom g files (min want left)) = drawn
      at part length
    split
    next full =>
      have spent : left - want = 0 := by omega
      have rest_ := Filled.nothing (rest.map Prod.snd)
      have filled := Filled.cons part rest_
      rw [List.append_nil, length] at filled
      rw [spent, rooms_zero, length_wants, List.length_map]
      rwa [List.length_map] at filled
    next room =>
      have left_ : left - min want left = left - want := by omega
      have filled := Filled.cons part (ih (left - want) drawn.2)
      rw [length] at filled
      rw [left_]
      exact filled

end Sampler

/-! ## The directories of a sample -/

/-- A file is added to the group of its directory. -/
theorem groupFile_eq (groups : List (String × List String)) (file : String) :
    groupFile groups file = addUnder groups (directoryOf file) file := by
  induction groups with
  | nil => rfl
  | cons e rest ih => rw [groupFile, addUnder, ih]

/-- The groups are the directories, in order, each with its files. -/
theorem byDirectory_eq (files : List String) :
    byDirectory files = (directories files).map fun d => (d, filesIn files d) := by
  have groups : files.foldl groupFile [] = ((files.map directoryOf).eraseDups).map fun d =>
      (d, filesIn files d) := by
    have all := grouped_eq directoryOf id files
    simp only [List.map_id] at all
    rw [show groupFile = fun groups file => addUnder groups (directoryOf file) file from
      funext₂ groupFile_eq]
    exact all
  rw [byDirectory, groups, directories]
  exact (List.map_mergeSort (f := fun d => (d, filesIn files d)) (s := fun a b => !(b.1 < a.1))
    fun a _ b _ => rfl).symm

/-- Directories that are found in order are in order. -/
theorem directories_eq_of_pairwise {files dirs : List String}
    (found : (files.map directoryOf).eraseDups = dirs)
    (ordered : dirs.Pairwise fun a b => !(b < a)) : directories files = dirs := by
  rw [directories, found]
  exact List.mergeSort_of_pairwise ordered

/-- No directory is listed twice. -/
theorem nodup_directories (files : List String) : (directories files).Nodup :=
  (List.mergeSort_perm _ _).nodup_iff.mpr (nodup_eraseDups _)

/-- The directories of files are those that a file is in. -/
theorem mem_directories {files : List String} {directory : String} :
    directory ∈ directories files ↔ ∃ file ∈ files, directoryOf file = directory := by
  rw [directories, List.mem_mergeSort, List.mem_eraseDups, List.mem_map]

/-- The files of a directory are in it. -/
theorem directoryOf_of_mem {files : List String} {directory file : String}
    (member : file ∈ filesIn files directory) : directoryOf file = directory := by
  simpa using (List.mem_filter.mp member).2

/-- A directory has files if a file is in it. -/
theorem exists_mem_iff_filesIn_pos {files : List String} {directory : String} :
    (∃ file ∈ files, directoryOf file = directory) ↔ 0 < (filesIn files directory).length := by
  constructor
  · rintro ⟨file, inside, same⟩
    exact List.length_pos_of_mem (List.mem_filter.mpr ⟨inside, by simpa using same⟩)
  · intro some_
    obtain ⟨file, member⟩ := List.exists_mem_of_length_pos some_
    exact ⟨file, (List.mem_filter.mp member).1, directoryOf_of_mem member⟩

/-- A directory that is listed has files. -/
theorem filesIn_pos {files : List String} {directory : String}
    (member : directory ∈ directories files) : 0 < (filesIn files directory).length :=
  exists_mem_iff_filesIn_pos.mp (mem_directories.mp member)

/-- The files of a directory in two lists. -/
theorem filesIn_append (a b : List String) (directory : String) :
    filesIn (a ++ b) directory = filesIn a directory ++ filesIn b directory :=
  List.filter_append ..

/-- Files go into distinct directories, each into one. -/
theorem flatten_filesIn_perm (files : List String) {dirs : List String} (distinct : dirs.Nodup) :
    (dirs.map (filesIn files)).flatten.Perm (files.filter fun file => directoryOf file ∈ dirs) := by
  induction dirs with
  | nil => simp
  | cons d rest ih =>
    obtain ⟨new, distinct⟩ := List.nodup_cons.mp distinct
    have here : (files.filter fun file => directoryOf file ∈ d :: rest).filter
        (fun file => directoryOf file = d) = filesIn files d := by
      rw [List.filter_filter]
      refine List.filter_congr fun file _ => ?_
      simp +contextual
    have later : (files.filter fun file => directoryOf file ∈ d :: rest).filter
        (fun file => !decide (directoryOf file = d)) =
          files.filter fun file => directoryOf file ∈ rest := by
      rw [List.filter_filter]
      refine List.filter_congr fun file _ => ?_
      by_cases same : directoryOf file = d
      · simp [same, new]
      · simp [same]
    have parts := List.filter_append_perm (fun file => decide (directoryOf file = d))
      (files.filter fun file => directoryOf file ∈ d :: rest)
    rw [here, later] at parts
    rw [List.map_cons, List.flatten_cons]
    exact ((ih distinct).append_left _).trans parts

/-- The files by directory are the files, in another order. -/
theorem flatten_directories_perm (files : List String) :
    ((directories files).map (filesIn files)).flatten.Perm files := by
  have all : (files.filter fun file => directoryOf file ∈ directories files) = files :=
    List.filter_eq_self.mpr fun file member => by
      simpa using mem_directories.mpr ⟨file, member, rfl⟩
  have parts := flatten_filesIn_perm files (nodup_directories files)
  rwa [all] at parts

/-- If files are picked from directories, then the sample has as many files of each as were picked from
it. -/
theorem Filled.filesIn {files picked dirs : List String} {counts : List Nat}
    (h : Filled (dirs.map (filesIn files)) counts picked) (distinct : dirs.Nodup) :
    dirs.map (fun d => (DocGraph.filesIn picked d).length) = counts := by
  induction dirs generalizing counts picked with
  | nil =>
    cases h
    rfl
  | cons d rest ih =>
    rw [List.map_cons] at h
    obtain ⟨new, distinct⟩ := List.nodup_cons.mp distinct
    cases h with
    | @cons _ part more _ counts part_ filled =>
      have own : ∀ file ∈ part, directoryOf file = d :=
        fun file member => directoryOf_of_mem (part_.subset member)
      have others : ∀ file ∈ more, directoryOf file ∈ rest := by
        intro file member
        obtain ⟨list, listed, inside⟩ := List.mem_flatten.mp (filled.subperm.subset member)
        obtain ⟨other, known, rfl⟩ := List.mem_map.mp listed
        rwa [directoryOf_of_mem inside]
      have here : DocGraph.filesIn (part ++ more) d = part := by
        have all : DocGraph.filesIn part d = part :=
          List.filter_eq_self.mpr fun file member => by simpa using own file member
        have none_ : DocGraph.filesIn more d = [] := by
          refine List.filter_eq_nil_iff.mpr fun file member => ?_
          have known := others file member
          rw [decide_eq_true_eq]
          rintro rfl
          exact new known
        rw [filesIn_append, all, none_, List.append_nil]
      have later : ∀ other ∈ rest, DocGraph.filesIn (part ++ more) other =
          DocGraph.filesIn more other := by
        intro other known
        have none_ : DocGraph.filesIn part other = [] := by
          refine List.filter_eq_nil_iff.mpr fun file member => ?_
          rw [decide_eq_true_eq, own file member]
          rintro rfl
          exact new known
        rw [filesIn_append, none_, List.nil_append]
      rw [List.map_cons, here, List.map_congr_left fun other known => by rw [later other known],
        ih filled distinct]

namespace Sampler

variable {s : Sampler} {files : List String}

/-- How many files the directories of some files want in a sample. -/
def wantsOf (size : Nat) (files : List String) : List Nat :=
  wants size files.length ((directories files).map fun d => (filesIn files d).length)

/-- A stratified sample gives each directory what it wants, as long as there is room. -/
theorem filled_sample (modified : String → Except SystemFault Rat)
    (kind : s.strategy = .stratified) (longer : s.size < files.length) :
    ∃ picked after, s.sample modified files = .ok (picked, after) ∧
      Filled ((directories files).map (filesIn files))
        (rooms s.size.toNat (wantsOf s.size.toNat files)) picked := by
  have filled := filled_pickShares s.size.toNat files.length (byDirectory files) s.size.toNat
    s.generator
  generalize drawn_ : pickShares s.size.toNat files.length s.size.toNat (byDirectory files)
    s.generator = drawn at filled
  refine ⟨drawn.1, { s with generator := drawn.2 }, ?_, ?_⟩
  · rw [sample, if_neg (by omega), kind]
    dsimp only
    rw [drawn_]
  · rw [byDirectory_eq, List.map_map, List.map_map] at filled
    exact filled

/-- Every directory is in a sample if all but the last one leave room. -/
theorem covered_iff {size : Nat} {picked : List String}
    (counts : (directories files).map (fun d => (filesIn picked d).length) =
      rooms size (wantsOf size files)) (nonempty : 0 < files.length) :
    (∀ d ∈ directories files, ∃ file ∈ picked, directoryOf file = d) ↔
      (wantsOf size files).dropLast.sum < size := by
  obtain ⟨file, member⟩ := List.exists_mem_of_length_pos nonempty
  have listed : directoryOf file ∈ directories files :=
    mem_directories.mpr ⟨file, member, rfl⟩
  have some_ : wantsOf size files ≠ [] := by
    refine List.ne_nil_of_length_pos ?_
    rw [wantsOf, length_wants, List.length_map]
    exact List.length_pos_of_mem listed
  have wanted : ∀ want ∈ wantsOf size files, 0 < want := by
    refine wants_pos ?_
    intro count known
    obtain ⟨d, isDirectory, rfl⟩ := List.mem_map.mp known
    exact filesIn_pos isDirectory
  calc (∀ d ∈ directories files, ∃ file ∈ picked, directoryOf file = d)
      ↔ ∀ d ∈ directories files, 0 < (filesIn picked d).length :=
        forall₂_congr fun d _ => exists_mem_iff_filesIn_pos
    _ ↔ ∀ room ∈ rooms size (wantsOf size files), 0 < room := by
        rw [← counts, List.forall_mem_map]
    _ ↔ (wantsOf size files).dropLast.sum < size := rooms_pos_iff some_ wanted size

/-- A stratified sample goes through the directories in order, and each gets what it wants as long as
there is room. So the sample has the size that is asked for if the directories want as much, and every
directory is in it if all but the last one want less. -/
theorem sample_stratified (modified : String → Except SystemFault Rat)
    (kind : s.strategy = .stratified) (some_ : 1 ≤ s.size) (longer : s.size < files.length) :
    ∃ picked after, s.sample modified files = .ok (picked, after) ∧ picked.Subperm files ∧
      (directories files).map (fun d => (filesIn picked d).length) =
        rooms s.size.toNat (wantsOf s.size.toNat files) ∧
      (picked.length = s.size ↔ s.size ≤ (wantsOf s.size.toNat files).sum) ∧
      ((∀ d ∈ directories files, ∃ file ∈ picked, directoryOf file = d) ↔
        (wantsOf s.size.toNat files).dropLast.sum < s.size) := by
  obtain ⟨picked, after, sampled, filled⟩ := filled_sample modified kind longer
  have counts := filled.filesIn (nodup_directories files)
  refine ⟨picked, after, sampled, ?_, counts, ?_, ?_⟩
  · exact filled.subperm.trans (flatten_directories_perm files).subperm
  · rw [filled.length, sum_rooms]
    omega
  · rw [covered_iff counts (by omega)]
    omega

/-- Files most of which are in one directory. -/
def crowded : List String := ["a/1", "a/2", "a/3", "a/4", "b/1", "c/1"]

/-- Files of which the last directory has fewest. -/
def uneven : List String := ["a/1", "a/2", "b/1", "b/2", "c/1"]

/-- They are in three directories. -/
theorem directories_crowded : directories crowded = ["a", "b", "c"] :=
  directories_eq_of_pairwise rfl (by decide)

/-- They are in three directories as well. -/
theorem directories_uneven : directories uneven = ["a", "b", "c"] :=
  directories_eq_of_pairwise rfl (by decide)

/-- The first directory wants two files, and each of the others wants one. -/
theorem wantsOf_crowded : wantsOf 3 crowded = [2, 1, 1] ∧ wantsOf 4 crowded = [2, 1, 1] := by
  have lengths : [(filesIn crowded "a").length, (filesIn crowded "b").length,
      (filesIn crowded "c").length] = [4, 1, 1] := by decide
  rw [wantsOf, wantsOf, directories_crowded]
  simp only [List.map_cons, List.map_nil, lengths]
  constructor
  · simp [wants, shareOf_eq, crowded]
  · simp [wants, shareOf_eq, crowded]

/-- Each directory wants one file. -/
theorem wantsOf_uneven : wantsOf 4 uneven = [1, 1, 1] := by
  have lengths : [(filesIn uneven "a").length, (filesIn uneven "b").length,
      (filesIn uneven "c").length] = [2, 2, 1] := by decide
  rw [wantsOf, directories_uneven]
  simp only [List.map_cons, List.map_nil, lengths]
  simp [wants, shareOf_eq, uneven]

/-- Of four files two are from the first directory, and each of the others has one. -/
theorem sample_stratified_of_crowded :
    (ofSeed .stratified 4 1).strategy = .stratified ∧ (1 : Int) ≤ 4 ∧
      (4 : Int) < crowded.length ∧
      ∃ picked after, (ofSeed .stratified 4 1).sample (fun _ => .ok 0) crowded =
          .ok (picked, after) ∧ picked.Subperm crowded ∧
        (filesIn picked "a").length = 2 ∧ (filesIn picked "b").length = 1 ∧
        (filesIn picked "c").length = 1 ∧ picked.length = 4 ∧
        ∀ d ∈ directories crowded, ∃ file ∈ picked, directoryOf file = d := by
  have longer : (ofSeed .stratified 4 1).size < crowded.length := by decide
  obtain ⟨picked, after, sampled, inside, counts, full, covered⟩ :=
    sample_stratified (fun _ => .ok 0) rfl (by decide) longer
  have wanted : wantsOf (ofSeed .stratified 4 1).size.toNat crowded = [2, 1, 1] :=
    wantsOf_crowded.2
  have given : rooms (ofSeed .stratified 4 1).size.toNat [2, 1, 1] = [2, 1, 1] := rfl
  rw [wanted] at counts full covered
  rw [given, directories_crowded] at counts
  have each : (filesIn picked "a").length = 2 ∧ (filesIn picked "b").length = 1 ∧
      (filesIn picked "c").length = 1 := by
    simpa using counts
  have asked : (picked.length : Int) = 4 := full.mpr (by decide)
  exact ⟨rfl, by decide, by decide, picked, after, sampled, inside, each.1, each.2.1, each.2.2,
    by exact_mod_cast asked, covered.mpr (by decide)⟩

/-- There is room for a file of each of three directories, but the first one gets two and the third one
none. And of five files only three are picked, although four are asked for. -/
theorem sample_of_crowded :
    (∃ picked after, (ofSeed .stratified 3 1).sample (fun _ => .ok 0) crowded =
        .ok (picked, after) ∧ (directories crowded).length = 3 ∧ "c" ∈ directories crowded ∧
        (filesIn picked "a").length = 2 ∧ ∀ file ∈ picked, directoryOf file ≠ "c") ∧
      ∃ picked after, (ofSeed .stratified 4 1).sample (fun _ => .ok 0) uneven =
        .ok (picked, after) ∧ uneven.length = 5 ∧ picked.length = 3 := by
  constructor
  · have longer : (ofSeed .stratified 3 1).size < crowded.length := by decide
    obtain ⟨picked, after, sampled, filled⟩ := filled_sample (fun _ => .ok 0) rfl longer
    have wanted : wantsOf (ofSeed .stratified 3 1).size.toNat crowded = [2, 1, 1] :=
      wantsOf_crowded.1
    have given : rooms (ofSeed .stratified 3 1).size.toNat [2, 1, 1] = [2, 1, 0] := rfl
    have counts := filled.filesIn (nodup_directories crowded)
    rw [wanted, given, directories_crowded] at counts
    have each : (filesIn picked "a").length = 2 ∧ (filesIn picked "b").length = 1 ∧
        filesIn picked "c" = [] := by
      simpa using counts
    have none_ : ∀ file ∈ picked, directoryOf file ≠ "c" := by
      intro file member same
      have some_ := exists_mem_iff_filesIn_pos.mp ⟨file, member, same⟩
      rw [each.2.2] at some_
      exact absurd some_ (by decide)
    rw [directories_crowded]
    exact ⟨picked, after, sampled, rfl, by decide, each.1, none_⟩
  · have longer : (ofSeed .stratified 4 1).size < uneven.length := by decide
    obtain ⟨picked, after, sampled, filled⟩ := filled_sample (fun _ => .ok 0) rfl longer
    have wanted : wantsOf (ofSeed .stratified 4 1).size.toNat uneven = [1, 1, 1] :=
      wantsOf_uneven
    have length := filled.length
    rw [wanted, sum_rooms] at length
    exact ⟨picked, after, sampled, rfl, length⟩

end Sampler

end DocGraph
