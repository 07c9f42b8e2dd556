import DocGraph.Proofs.Sample.Recent
import DocGraph.Proofs.Sample.Shares

/-!
# What a sample is

A sampler picks from one list of files after the other, and what it draws for one of them has its effect
on what it draws for the next. `sampleAll_selects` says what all samples have in common, whatever is
drawn: no position of a list is picked twice, a list that is short enough stays as it is, and of a list
that is not as many files are picked as are asked for, or, if directories have shares, no more than that.

What is asked of the file system is only when files were modified. So a request comes with a function
that says this of each path, or why it cannot be said, and the function may be another one for each
request.

There is a sample of every list, except for one case. To sort files by time, each of them is asked for
its time, and a path with a null character is an error then, and not just a file of which nothing can be
found out: `sample_of_null`.
-/

set_option autoImplicit false

namespace DocGraph

/-! ## Counting directories -/

/-- To count a directory is to add a file to those under its name. -/
theorem countDirectory_lengths (table : List (String × List String)) (directory file : String) :
    countDirectory (table.map fun e => (e.1, e.2.length)) directory =
      (addUnder table directory file).map fun e => (e.1, e.2.length) := by
  induction table with
  | nil => rfl
  | cons e rest ih =>
    rw [List.map_cons, countDirectory, addUnder, ih]
    by_cases here : e.1 = directory
    · rw [if_pos here, if_pos here, List.map_cons, List.length_append, List.length_singleton]
    · rw [if_neg here, if_neg here, List.map_cons]

/-- Directories are counted in the order in which they occur first, each with all its files. -/
theorem foldl_countDirectory (files : List String) :
    (files.map directoryOf).foldl countDirectory [] =
      ((files.map directoryOf).eraseDups).map fun d => (d, (filesIn files d).length) := by
  have counted : (files.map directoryOf).foldl countDirectory [] =
      (grouped directoryOf id files).map fun e => (e.1, e.2.length) := by
    induction files using List.reverseRecOn with
    | nil => rfl
    | append_singleton files file ih =>
      rw [List.map_append, List.foldl_append, ih, grouped_append_singleton]
      exact countDirectory_lengths _ _ _
  rw [counted, grouped_eq, List.map_map]
  simp only [List.map_id]
  rfl

/-- Every file is in one of the directories of files. -/
theorem sum_directoryCounts (files : List String) :
    (((files.map directoryOf).eraseDups).map fun d => (filesIn files d).length).sum =
      files.length := by
  have all : (files.filter fun file => directoryOf file ∈ (files.map directoryOf).eraseDups) = files :=
    List.filter_eq_self.mpr fun file member => by
      simpa using ⟨file, member, rfl⟩
  have parts := (flatten_filesIn_perm files (nodup_eraseDups (files.map directoryOf))).length_eq
  rw [all, List.length_flatten, List.map_map] at parts
  exact parts

/-! ## Selections -/

/-- A list to pick from, and what the file system says about when each file was modified. -/
structure SampleRequest where
  modified : String → Except SystemFault Rat
  files : List String

namespace SampleRequest

/-- Files are picked at different positions. -/
def PickedAt (request : SampleRequest) (chosen : List (String × Nat)) (picked : List String) : Prop :=
  chosen.Subperm request.files.zipIdx ∧ chosen.map Prod.fst = picked

/-- What is to be said about a sample. -/
structure IsSample (request : SampleRequest) (strategy : Strategy) (size : Int)
    (picked : List String) : Prop where
  whole : (request.files.length : Int) ≤ size → picked = request.files
  full : strategy ≠ .stratified → size < request.files.length → (picked.length : Int) = size
  short : (picked.length : Int) ≤ size
  selected : ∃ chosen, request.PickedAt chosen picked
  /-- Directories give what they have, one after the other, as long as there is room. -/
  shared : strategy = .stratified → size < request.files.length → ∃ counts : List Nat,
    Filled ((directories request.files).map (filesIn request.files)) counts picked ∧
      ∀ k, 0 ≤ size - ((counts.take k).sum : Nat)
  /-- The files that were modified last are picked, in order. -/
  newest : strategy = .recent → size < request.files.length → ∃ chosen,
    request.PickedAt chosen picked ∧ chosen.Pairwise (GoesBefore request.modified) ∧
      ∀ b ∈ request.files.zipIdx, b ∉ chosen → ∀ a ∈ chosen, GoesBefore request.modified a b

/-- There is no sample if files are to be sorted by time, and one of them may not be asked about. -/
def Fails (request : SampleRequest) (strategy : Strategy) (size : Int) : Prop :=
  strategy = .recent ∧ size < request.files.length ∧
    ∃ file ∈ request.files, request.modified file = .error .nullCharacter

/-- What a sampler says to a request. -/
def Answers (request : SampleRequest) (strategy : Strategy) (size : Int) :
    Except SampleError (List String) → Prop
  | .ok picked => ¬request.Fails strategy size ∧ request.IsSample strategy size picked
  | .error e => request.Fails strategy size ∧ e = .refused .nullCharacter

variable {request : SampleRequest} {picked : List String}

/-- What is picked without repetition is picked at different positions. -/
theorem exists_pickedAt (part : picked.Subperm request.files) :
    ∃ chosen, request.PickedAt chosen picked := by
  obtain ⟨ordered, same, sub⟩ := part
  rw [← List.zipIdx_map_fst 0 request.files] at sub
  obtain ⟨within, inside, rfl⟩ := List.sublist_map_iff.mp sub
  -- The positions are known for the files in order, and go along with them.
  obtain ⟨chosen, rfl, moved⟩ :=
    (congrFun₂ (List.eq_map_comp_perm Prod.fst) picked within).mpr same.symm
  exact ⟨chosen, ⟨within, moved.symm, inside⟩, rfl⟩

/-- A list that is short enough is a sample of itself. -/
theorem isSample_self {strategy : Strategy} {size : Int}
    (enough : (request.files.length : Int) ≤ size) :
    request.IsSample strategy size request.files where
  whole := fun _ => rfl
  full := fun _ longer => absurd longer (not_lt.mpr enough)
  short := enough
  selected := exists_pickedAt (List.Subperm.refl _)
  shared := fun _ longer => absurd longer (not_lt.mpr enough)
  newest := fun _ longer => absurd longer (not_lt.mpr enough)

/-- There is a sample of a list that is short enough. -/
theorem not_fails_of_le {strategy : Strategy} {size : Int}
    (enough : (request.files.length : Int) ≤ size) : ¬request.Fails strategy size :=
  fun fails => absurd fails.2.1 (not_lt.mpr enough)

/-- There is a sample if files are not to be sorted by time. -/
theorem not_fails_of_ne {strategy : Strategy} {size : Int} (other : strategy ≠ .recent) :
    ¬request.Fails strategy size :=
  fun fails => other fails.1

/-- At a site there is no sample if one of the paths has a null character. -/
theorem fails_at_site {site : Site} {files : List String} {strategy : Strategy} {size : Int} :
    Fails ⟨site.modified, files⟩ strategy size ↔
      strategy = .recent ∧ size < files.length ∧ ∃ file ∈ files, '\x00' ∈ file.toList := by
  simp only [Fails, Site.modified_eq_nullCharacter_iff]

end SampleRequest

namespace Sampler

variable {s : Sampler}

open SampleRequest

/-- A sampler that has picked files is the same sampler, but for its generator. -/
theorem sample_keeps {modified : String → Except SystemFault Rat}
    {files picked : List String} {after : Sampler}
    (sampled : s.sample modified files = .ok (picked, after)) :
    after.strategy = s.strategy ∧ after.size = s.size := by
  unfold sample at sampled
  split at sampled
  · cases sampled
    exact ⟨rfl, rfl⟩
  · split at sampled
    · cases recent : pickRecent modified s.size files with
      | error fault =>
        rw [recent] at sampled
        cases sampled
      | ok newest =>
        rw [recent] at sampled
        cases sampled
        exact ⟨rfl, rfl⟩
    · cases sampled
      exact ⟨rfl, rfl⟩
    · split at sampled
      · cases sampled
      · cases sampled
        exact ⟨rfl, rfl⟩

/-- At random, as many files are picked as are asked for. -/
theorem sample_of_random (request : SampleRequest) (kind : s.strategy = .random)
    (nonneg : 0 ≤ s.size) (longer : s.size < request.files.length) :
    ∃ picked after, s.sample request.modified request.files = .ok (picked, after) ∧
      request.IsSample .random s.size picked := by
  have enough : s.size.toNat ≤ request.files.length := by omega
  refine ⟨(s.generator.choose request.files s.size.toNat).1,
    { s with generator := (s.generator.choose request.files s.size.toNat).2 }, ?_, ?_⟩
  · rw [sample, if_neg (not_le.mpr longer), kind]
    dsimp only
    rw [if_neg (not_lt.mpr nonneg)]
  · have length := Generator.length_choose enough s.generator
    exact {
      whole := fun short => absurd short (not_le.mpr longer)
      full := fun _ _ => by omega
      short := by omega
      selected := exists_pickedAt (Generator.choose_subperm enough s.generator)
      shared := fun other => absurd other (by decide)
      newest := fun other => absurd other (by decide) }

/-- If directories have shares, they are filled up to the size. -/
theorem sample_of_stratified (request : SampleRequest) (kind : s.strategy = .stratified)
    (nonneg : 0 ≤ s.size) (longer : s.size < request.files.length) :
    ∃ picked after, s.sample request.modified request.files = .ok (picked, after) ∧
      request.IsSample .stratified s.size picked := by
  obtain ⟨picked, after, sampled, filled⟩ := filled_sample request.modified kind longer
  generalize counted : rooms s.size.toNat (wantsOf s.size.toNat request.files) = counts at filled
  have total : counts.sum ≤ s.size.toNat := by
    rw [← counted, sum_rooms]
    exact min_le_left _ _
  have length := filled.length
  refine ⟨picked, after, sampled, ?_⟩
  exact {
    whole := fun short => absurd short (not_le.mpr longer)
    full := fun other => absurd rfl other
    short := by omega
    selected := exists_pickedAt (filled.subperm.trans (flatten_directories_perm _).subperm)
    shared := fun _ _ => ⟨counts, filled, fun k => by
      have part := (List.take_sublist k counts).sum_le_sum fun _ _ => Nat.zero_le _
      omega⟩
    newest := fun other => absurd other (by decide) }

/-- Those modified last are picked, unless one of the files may not be asked about. -/
theorem sample_of_recent (request : SampleRequest) (kind : s.strategy = .recent)
    (nonneg : 0 ≤ s.size) (longer : s.size < request.files.length) :
    (request.Fails .recent s.size ∧
        s.sample request.modified request.files = .error (.refused .nullCharacter)) ∨
      ¬request.Fails .recent s.size ∧
        ∃ picked after, s.sample request.modified request.files = .ok (picked, after) ∧
          request.IsSample .recent s.size picked := by
  have sampled : s.sample request.modified request.files =
      ((pickRecent request.modified s.size request.files).mapError .refused).map (·, s) := by
    rw [sample, if_neg (not_le.mpr longer), kind]
  have answer := exists_pickRecent request.modified nonneg request.files
  rw [sampled]
  split at answer
  next refused =>
    rw [answer]
    exact Or.inl ⟨⟨rfl, longer, refused⟩, rfl⟩
  next known =>
    obtain ⟨chosen, picked, sub, length, within, across⟩ := answer
    have length : ((chosen.map Prod.fst).length : Int) = s.size := by
      rw [List.length_map, length]
      omega
    rw [picked]
    refine Or.inr ⟨fun fails => known fails.2.2, chosen.map Prod.fst, s, rfl, ?_⟩
    exact {
      whole := fun short => absurd short (not_le.mpr longer)
      full := fun _ _ => length
      short := length.le
      selected := ⟨chosen, sub, rfl⟩
      shared := fun other => absurd other (by decide)
      newest := fun _ _ => ⟨chosen, ⟨sub, rfl⟩, within, across⟩ }

/-- One sample: what is said to a request is an answer to it, and the sampler goes on with the same
strategy and size. -/
theorem sample_answers (nonneg : 0 ≤ s.size) (request : SampleRequest) :
    (∃ picked after, s.sample request.modified request.files = .ok (picked, after) ∧
        request.Answers s.strategy s.size (.ok picked)) ∨
      ∃ e, s.sample request.modified request.files = .error e ∧
        request.Answers s.strategy s.size (.error e) := by
  by_cases enough : (request.files.length : Int) ≤ s.size
  · refine Or.inl ⟨request.files, s, ?_, not_fails_of_le enough, isSample_self enough⟩
    rw [sample, if_pos enough]
  · have longer := not_le.mp enough
    cases kind : s.strategy with
    | random =>
      obtain ⟨picked, after, sampled, good⟩ := sample_of_random request kind nonneg longer
      exact Or.inl ⟨picked, after, sampled, not_fails_of_ne (by decide), good⟩
    | stratified =>
      obtain ⟨picked, after, sampled, good⟩ := sample_of_stratified request kind nonneg longer
      exact Or.inl ⟨picked, after, sampled, not_fails_of_ne (by decide), good⟩
    | recent =>
      rcases sample_of_recent request kind nonneg longer with
        ⟨fails, refused⟩ | ⟨goes, picked, after, sampled, good⟩
      · exact Or.inr ⟨_, refused, fails, rfl⟩
      · exact Or.inl ⟨picked, after, sampled, goes, good⟩

/-- Pick from several lists, one after the other. A sampler that fails stays what it is. -/
def sampleAll (s : Sampler) : List SampleRequest → List (Except SampleError (List String))
  | [] => []
  | request :: rest =>
    match s.sample request.modified request.files with
    | .ok (picked, after) => .ok picked :: after.sampleAll rest
    | .error e => .error e :: s.sampleAll rest

/-- What a sampler says to one request after the other. There is no sample only if files are to be
sorted by time, there are more than are asked for, and the file system may not be asked about one of
them. Else a list that is not longer than the size stays as it is, and of a longer one files are picked
at different positions, as many as are asked for, or at most as many if directories have shares. Then
each directory gives some of its files, in the order of the directories, and at no time more than there
is room for. If files are sorted by time, those that are picked are in order and go before those that
are not.

The statistics of a sample count its directories, in the order in which they occur first, each with all
its files, and no others. -/
theorem sampleAll_selects (s : Sampler) (nonneg : 0 ≤ s.size) (requests : List SampleRequest) :
    List.Forall₂ (fun request => request.Answers s.strategy s.size) requests (s.sampleAll requests) ∧
      ∀ files picked, (s.stats files picked).sampledFiles = picked.length ∧
        (s.stats files picked).directoryCounts =
          ((picked.map directoryOf).eraseDups).map (fun d => (d, (filesIn picked d).length)) ∧
        ((s.stats files picked).directoryCounts.map Prod.snd).sum =
          (s.stats files picked).sampledFiles := by
  constructor
  · induction requests generalizing s with
    | nil => exact .nil
    | cons request rest ih =>
      rw [sampleAll]
      rcases sample_answers nonneg request with ⟨picked, after, sampled, answer⟩ | ⟨e, failed, answer⟩
      · obtain ⟨strategy, size⟩ := sample_keeps sampled
        have later := ih after (size ▸ nonneg)
        rw [strategy, size] at later
        rw [sampled]
        exact .cons answer later
      · rw [failed]
        exact .cons answer (ih s nonneg)
  · intro files picked
    have counts := foldl_countDirectory picked
    refine ⟨rfl, counts, ?_⟩
    change (((picked.map directoryOf).foldl countDirectory []).map Prod.snd).sum = picked.length
    rw [counts, List.map_map]
    exact sum_directoryCounts picked

/-- A directory with two files, the second of which was modified later. -/
def pair : Site :=
  { files := ⟨[("a.go", .file [] 1000000000), ("b.go", .file [] 2000000000)]⟩ }

/-- When they were modified, in seconds. A path with a null character may not be asked about. -/
theorem pair_times :
    pair.modified "a.go" = .ok 1 ∧ pair.modified "b.go" = .ok 2 ∧
      pair.modified "x\x00" = .error .nullCharacter := by
  have first : pair.files.locateText "a.go" = .ok (.file [] 1000000000) := by cbv
  have second : pair.files.locateText "b.go" = .ok (.file [] 2000000000) := by cbv
  have seconds : secondsOf 1000000000 = 1 ∧ secondsOf 2000000000 = 2 := by decide +kernel
  refine ⟨?_, ?_, (pair.modified_eq_nullCharacter_iff _).mpr (by decide)⟩
  · rw [Site.modified, first]
    exact congrArg Except.ok seconds.1
  · rw [Site.modified, second]
    exact congrArg Except.ok seconds.2

/-- Of two files the one that was modified later is picked. -/
theorem sampleAll_selects_of_pair :
    (0 : Int) ≤ (ofSeed .recent 1 1).size ∧
      (ofSeed .recent 1 1).sampleAll [⟨pair.modified, ["a.go", "b.go"]⟩] = [.ok ["b.go"]] := by
  obtain ⟨answers, -⟩ := sampleAll_selects (ofSeed .recent 1 1) (by decide)
    [⟨pair.modified, ["a.go", "b.go"]⟩]
  refine ⟨by decide, ?_⟩
  obtain ⟨told, others, answer, none_, said⟩ := List.forall₂_cons_left_iff.mp answers
  obtain rfl := List.forall₂_nil_left_iff.mp none_
  rw [said]
  cases told with
  | error e =>
    obtain ⟨-, -, null⟩ := fails_at_site.mp answer.1
    exact absurd null (by decide)
  | ok picked =>
    obtain ⟨-, good⟩ := answer
    have full : (picked.length : Int) = 1 := good.full (by decide) (by decide)
    have one : picked.length = 1 := by exact_mod_cast full
    obtain ⟨chosen, ⟨sub, rfl⟩, -, across⟩ := good.newest rfl (by decide)
    obtain ⟨e, rfl⟩ := List.length_eq_one_iff.mp (List.length_map _ ▸ one)
    rcases List.mem_pair.mp (sub.subset (List.mem_singleton_self e)) with rfl | rfl
    · -- The first file would go before the second one.
      obtain ⟨first, second, -⟩ := pair_times
      have before := across ("b.go", 1) (by decide) (by decide) _ (List.mem_singleton_self _)
      unfold GoesBefore timeOf at before
      dsimp only at before
      rw [first, second] at before
      rcases before with later | ⟨same, -⟩
      · exact absurd (show (2 : Rat) < 1 from later) (by decide)
      · exact absurd (show some (1 : Rat) = some 2 from same) (by decide)
    · rfl

/-- A path with a null character cannot be asked for its time, but it is not sorted behind the other
one. There is no sample. -/
theorem sample_of_null :
    (ofSeed .recent 1 1).sample pair.modified ["x\x00", "b.go"] =
      .error (.refused .nullCharacter) := by
  obtain ⟨-, -, refused⟩ := pair_times
  have answer := exists_pickRecent pair.modified (by decide : (0 : Int) ≤ 1) ["x\x00", "b.go"]
  rw [if_pos ⟨_, List.mem_cons_self, refused⟩] at answer
  have sampled : (ofSeed .recent 1 1).sample pair.modified ["x\x00", "b.go"] =
      ((pickRecent pair.modified 1 ["x\x00", "b.go"]).mapError .refused).map
        (·, ofSeed .recent 1 1) := rfl
  rw [sampled, answer]
  rfl

end Sampler

end DocGraph
