import DocGraph.Proofs.FileSystem.Tree
import DocGraph.Proofs.Table

/-!
# Where paths lead

Every entry that a path leads to belongs to the tree, so it is well formed if the tree is. A path
that goes on behind a directory goes on from that directory: names that lead through real
directories to a file lead there for `locate` as well, unless it refuses the path as a whole.
-/

set_option autoImplicit false

namespace DocGraph

namespace FileSystem

variable (fs : FileSystem)

/-- Going on from well-formed entries of a well-formed tree ends at a well-formed entry. -/
theorem locateFrom_wellFormed (tree : fs.WellFormed) (followLast : Bool) (links : Nat)
    (above : List Entry) (current : Entry) (parts : List String) (reached : Entry)
    (h : fs.locateFrom followLast links above current parts = .ok reached)
    (start : current.WellFormed) (outer : ∀ e ∈ above, e.WellFormed) : reached.WellFormed := by
  fun_induction locateFrom fs followLast links above current parts with
  | case1 links above current => exact Except.ok.inj h ▸ start
  | case2 links above name rest entries dotted ih => exact ih h start outer
  | case3 links rest entries notDotted ih => exact ih h start outer
  | case4 links rest entries up more notDotted ih =>
    exact ih h (outer up List.mem_cons_self) fun e member => outer e (List.mem_cons_of_mem _ member)
  | case5 => cases h
  | case6 links above name rest entries notDotted notUp target found stop =>
    exact Except.ok.inj h ▸ .link target
  | case7 => cases h
  | case8 above name rest entries notDotted notUp target found go links parts rooted ih =>
    exact ih h tree (by simp)
  | case9 above name rest entries notDotted notUp target found go links parts relative ih =>
    exact ih h start outer
  | case10 links above name rest entries notDotted notUp e notLink found ih =>
    refine ih h (start.children _ (mem_of_lookup found)) fun e member => ?_
    rcases List.mem_cons.mp member with rfl | member
    · exact start
    · exact outer e member
  | case11 => cases h

/-- A path that is not refused as a whole goes down from the top directory. -/
theorem locateFrom_of_locate {p : Path} {reached : Entry} (h : fs.locate p = .ok reached) :
    fs.locateFrom true linkLimit [] (.directory fs.top) p.parts = .ok reached := by
  unfold locate at h
  split at h
  · cases h
  · split at h
    · cases h
    · exact h

/-- A path that leads somewhere has no null character. -/
theorem hasNull_of_locate {p : Path} {reached : Entry} (h : fs.locate p = .ok reached) :
    p.hasNull = false := by
  unfold locate at h
  split at h
  · cases h
  next noNull => exact Bool.not_eq_true _ ▸ noNull

/-- In a well-formed file system a path leads to a well-formed entry. -/
theorem locate_wellFormed (tree : fs.WellFormed) {p : Path} {reached : Entry}
    (h : fs.locate p = .ok reached) : reached.WellFormed :=
  locateFrom_wellFormed fs tree true linkLimit [] _ p.parts reached (fs.locateFrom_of_locate h) tree
    (by simp)

/-- Going on along the parts of a path is never refused because of a null character. -/
theorem locateFrom_ne_nullCharacter (followLast : Bool) (links : Nat) (above : List Entry)
    (current : Entry) (parts : List String) :
    fs.locateFrom followLast links above current parts ≠ .error .nullCharacter := by
  fun_induction locateFrom fs followLast links above current parts with
  | case5 =>
    split
    · simp
    · simp
  | case1 | case6 | case7 | case11 => simp
  | _ => assumption

/-- Only a path with a null character is refused because of one. -/
theorem locate_ne_nullCharacter {p : Path} (noNull : p.hasNull = false) :
    fs.locate p ≠ .error .nullCharacter := by
  unfold locate
  rw [noNull, if_neg Bool.false_ne_true]
  split
  · simp
  · exact fs.locateFrom_ne_nullCharacter _ _ _ _ _

/-- Only a path with a null character cannot be read because of one. -/
theorem read_ne_nullCharacter {p : Path} (noNull : p.hasNull = false) :
    fs.read p ≠ .error .nullCharacter := by
  have located := fs.locate_ne_nullCharacter noNull
  unfold read
  split
  · simp
  · simp
  next fault found =>
    rw [found] at located
    simpa using located

/-- A name under which a directory has something that is no link goes down to it. -/
theorem locateFrom_under (followLast : Bool) (links : Nat) (above : List Entry)
    (entries : List (String × Entry)) (name : String) (rest : List String) (e : Entry)
    (notDotted : ¬(decide (name = "") || decide (name = ".")) = true) (notUp : name ≠ "..")
    (found : entries.lookup name = some e) (notLink : ∀ target, e ≠ .link target) :
    fs.locateFrom followLast links above (.directory entries) (name :: rest) =
      fs.locateFrom followLast links (.directory entries :: above) e rest := by
  rw [locateFrom.eq_def]
  simp only [notDotted, notUp, found, if_false, Bool.false_eq_true]

/-- The parts of a path can be followed one after the other, with the links that are left by
then. -/
theorem locateFrom_append (links : Nat) (above : List Entry) (current : Entry)
    (parts : List String) (reached : Entry)
    (h : fs.locateFrom true links above current parts = .ok reached) :
    ∃ left outer, ∀ more, fs.locateFrom true links above current (parts ++ more) =
      fs.locateFrom true left outer reached more := by
  fun_induction locateFrom fs true links above current parts with
  | case1 links above current =>
    obtain rfl := Except.ok.inj h
    exact ⟨links, above, fun more => rfl⟩
  | case2 links above name rest entries dotted ih =>
    obtain ⟨left, outer, same⟩ := ih h
    refine ⟨left, outer, fun more => ?_⟩
    rw [List.cons_append, locateFrom.eq_def]
    simp only [dotted, if_true]
    exact same more
  | case3 links rest entries notDotted ih =>
    obtain ⟨left, outer, same⟩ := ih h
    refine ⟨left, outer, fun more => ?_⟩
    rw [List.cons_append, locateFrom, if_neg notDotted, if_pos rfl]
    exact same more
  | case4 links rest entries up more notDotted ih =>
    obtain ⟨left, outer, same⟩ := ih h
    refine ⟨left, outer, fun more => ?_⟩
    rw [List.cons_append, locateFrom, if_neg notDotted, if_pos rfl]
    exact same more
  | case5 => cases h
  | case6 links above name rest entries notDotted notUp target found stop => simp at stop
  | case7 => cases h
  | case8 above name rest entries notDotted notUp target found go links parts rooted ih =>
    obtain ⟨left, outer, same⟩ := ih h
    refine ⟨left, outer, fun more => ?_⟩
    rw [List.cons_append, locateFrom.eq_def]
    simp only [notDotted, notUp, found]
    simp only [Bool.not_true, Bool.and_false, Bool.false_eq_true, if_false, rooted, if_true]
    rw [← same more, List.append_assoc]
  | case9 above name rest entries notDotted notUp target found go links parts relative ih =>
    obtain ⟨left, outer, same⟩ := ih h
    refine ⟨left, outer, fun more => ?_⟩
    rw [List.cons_append, locateFrom.eq_def]
    simp only [notDotted, notUp, found]
    simp only [Bool.not_true, Bool.and_false, Bool.false_eq_true, if_false, relative]
    rw [← same more, List.append_assoc]
  | case10 links above name rest entries notDotted notUp e notLink found ih =>
    obtain ⟨left, outer, same⟩ := ih h
    refine ⟨left, outer, fun more => ?_⟩
    rw [List.cons_append,
      locateFrom_under fs true links above entries name (rest ++ more) e notDotted notUp found
        notLink]
    exact same more
  | case11 => cases h

/-- A chain of names through real directories leads to what it holds, if that is not a link. -/
theorem locateFrom_holds (links : Nat) (above : List Entry) {e found : Entry}
    {chain : List String} (h : e.Holds chain found) (wellFormed : e.WellFormed)
    (notLink : ∀ target, found ≠ .link target) :
    fs.locateFrom true links above e chain = .ok found := by
  induction h generalizing above with
  | here => rw [locateFrom]
  | @down entries name child found chain listed rest ih =>
    have valid := wellFormed.valid _ listed
    have under := lookup_of_mem wellFormed.distinct listed
    have next := ih (.directory entries :: above) (wellFormed.children _ listed) notLink
    have childNotLink : ∀ target, child ≠ .link target := by
      rintro target rfl
      cases rest with
      | here => exact notLink target rfl
    rw [locateFrom_under fs true links above entries name chain child
      (by simp [valid.nonempty, valid.noDot]) valid.noDots under childNotLink]
    exact next

/-- A path through real directories that is not refused as a whole leads to what they hold, if that
is not a link. -/
theorem locate_of_holds (tree : fs.WellFormed) {p : Path} {found : Entry}
    (noNull : p.hasNull = false) (short : p.toString.utf8ByteSize ≤ pathLimit)
    (h : (Entry.directory fs.top).Holds p.parts found) (notLink : ∀ target, found ≠ .link target) :
    fs.locate p = .ok found := by
  rw [locate, noNull, if_neg Bool.false_ne_true, if_neg (Nat.not_lt.mpr short)]
  exact fs.locateFrom_holds linkLimit [] h tree notLink

/-- A path that goes on through real directories leads to what they hold, or is refused as a
whole. -/
theorem locate_below (tree : fs.WellFormed) {root : Path} {top found reached : Entry}
    {chain : List String} (start : fs.locate root = .ok top) (h : top.Holds chain found)
    (notLink : ∀ target, found ≠ .link target)
    (located : fs.locate (root.below chain) = .ok reached) : reached = found := by
  have wellFormed := fs.locate_wellFormed tree start
  obtain ⟨left, outer, same⟩ :=
    fs.locateFrom_append linkLimit [] _ root.parts top (fs.locateFrom_of_locate start)
  have split := same chain
  rw [fs.locateFrom_holds left outer h wellFormed notLink] at split
  exact Except.ok.inj ((fs.locateFrom_of_locate located).symm.trans split)

end FileSystem

end DocGraph
