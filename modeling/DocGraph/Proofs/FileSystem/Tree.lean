import DocGraph.FileSystem
import DocGraph.Proofs.Table

/-!
# Trees of entries

What every file system promises about its trees, and what a chain of names leads to in one. The
entries of a directory have different names, and a name is neither empty nor one of the two dotted
ones, and holds neither a slash nor a null character. `Entry.Holds` goes down a chain without
following a link, so it says what really stands below a directory.

A snapshot that is put together entry by entry keeps the promise, and so does every entry that a
path leads to, whatever links it takes on the way.
-/

set_option autoImplicit false

namespace DocGraph

/-- A text that can stand for a name in a path. -/
structure ValidName (name : String) : Prop where
  nonempty : name ≠ ""
  noDot : name ≠ "."
  noDots : name ≠ ".."
  noSlash : '/' ∉ name.toList

/-- A text that an entry of a directory can have as its name. -/
structure EntryName (name : String) : Prop extends ValidName name where
  noNull : '\x00' ∉ name.toList

/-- Whether a text can be a name can be found out. -/
instance (name : String) : Decidable (EntryName name) :=
  decidable_of_iff
    ((name ≠ "" ∧ name ≠ "." ∧ name ≠ ".." ∧ '/' ∉ name.toList) ∧ '\x00' ∉ name.toList)
    ⟨fun ⟨⟨nonempty, noDot, noDots, noSlash⟩, noNull⟩ =>
      ⟨⟨nonempty, noDot, noDots, noSlash⟩, noNull⟩,
      fun h => ⟨⟨h.nonempty, h.noDot, h.noDots, h.noSlash⟩, h.noNull⟩⟩

/-- A tree as a file system keeps it: the names in a directory are names that entries can have, and
differ. -/
inductive Entry.WellFormed : Entry → Prop where
  | file (content : List UInt8) (modified : Int) : WellFormed (.file content modified)
  | link (target : String) : WellFormed (.link target)
  | directory {entries : List (String × Entry)} (distinct : (entries.map Prod.fst).Nodup)
      (named : ∀ e ∈ entries, EntryName e.1) (children : ∀ e ∈ entries, WellFormed e.2) :
      WellFormed (.directory entries)

/-- A file system is well formed if its tree is. -/
def FileSystem.WellFormed (fs : FileSystem) : Prop :=
  (Entry.directory fs.top).WellFormed

/-- The entry that a chain of names leads to below another, each name being that of an entry of
the directory before it. No link is followed. -/
inductive Entry.Holds : Entry → List String → Entry → Prop where
  | here (e : Entry) : Holds e [] e
  | down {entries : List (String × Entry)} {name : String} {child e : Entry}
      {chain : List String} (listed : (name, child) ∈ entries) (rest : Holds child chain e) :
      Holds (.directory entries) (name :: chain) e

/-- The path that a chain of names leads to from another. -/
def Path.below (p : Path) (chain : List String) : Path :=
  ⟨p.slashes, p.parts ++ chain⟩

namespace Path

/-- No names lead nowhere else. -/
@[simp] theorem below_nil (p : Path) : p.below [] = p := by
  simp [below]

/-- A child lies below by its name. -/
theorem child_eq_below (p : Path) (name : String) : p.child name = p.below [name] := rfl

/-- Two chains can be followed one after the other. -/
@[simp] theorem below_below (p : Path) (first second : List String) :
    (p.below first).below second = p.below (first ++ second) := by
  simp [below]

/-- Below a child means below by one name more. -/
@[simp] theorem child_below (p : Path) (name : String) (chain : List String) :
    (p.child name).below chain = p.below (name :: chain) := by
  rw [child_eq_below, below_below, List.singleton_append]

/-- Different chains lead to different paths. -/
theorem below_injective (p : Path) {first second : List String}
    (h : p.below first = p.below second) : first = second := by
  simpa [below] using h

/-! ## The text of a path -/

/-- A text that joins names without slashes can be split into the names again. -/
theorem splitOn_joined {names : List String} (nonempty : names ≠ [])
    (noSlash : ∀ name ∈ names, '/' ∉ name.toList) :
    ("/".intercalate names).toList.splitOn '/' = names.map String.toList := by
  rw [String.toList_intercalate]
  refine List.splitOn_intercalate '/' ?_ (by simpa using nonempty)
  intro characters member
  obtain ⟨name, named, rfl⟩ := List.mem_map.mp member
  exact noSlash name named

/-- Names without slashes can be told from the text that joins them with slashes. -/
theorem joined_injective {first second : List String} (some_ : first ≠ []) (any : second ≠ [])
    (validFirst : ∀ name ∈ first, ValidName name) (validSecond : ∀ name ∈ second, ValidName name)
    (h : "/".intercalate first = "/".intercalate second) : first = second := by
  have same : first.map String.toList = second.map String.toList := by
    rw [← splitOn_joined some_ fun name member => (validFirst name member).noSlash, h,
      splitOn_joined any fun name member => (validSecond name member).noSlash]
  exact List.map_injective_iff.mpr (fun _ _ => String.toList_inj.mp) same

/-- The text of a path with at least one name below another. -/
theorem toString_below (p : Path) {names : List String} (nonempty : names ≠ []) :
    (p.below names).toString =
      String.ofList (List.replicate p.slashes '/') ++ "/".intercalate (p.parts ++ names) := by
  have parts : (p.parts ++ names).isEmpty = false := by simp [nonempty]
  simp [toString, below, parts]

/-- Different chains of valid names lead to paths with different texts. -/
theorem toString_below_injective (p : Path) {first second : List String} (some_ : first ≠ [])
    (any : second ≠ []) (validFirst : ∀ name ∈ first, ValidName name)
    (validSecond : ∀ name ∈ second, ValidName name)
    (h : (p.below first).toString = (p.below second).toString) : first = second := by
  rw [toString_below p some_, toString_below p any, String.append_right_inj] at h
  by_cases top : p.parts = []
  · rw [top, List.nil_append, List.nil_append] at h
    exact joined_injective some_ any validFirst validSecond h
  · rw [String.intercalate_append_of_ne_nil top some_, String.intercalate_append_of_ne_nil top any,
      String.append_right_inj] at h
    exact joined_injective some_ any validFirst validSecond h

end Path

/-! ## The normal form of names -/

section Stack

variable (rooted : Bool) {parts : List String}

/-- A valid name is added to the parts of a path. -/
theorem normalStep_name {name : String} (valid : ValidName name) :
    normalStep rooted parts name = name :: parts := by
  simp [normalStep, valid.nonempty, valid.noDot, valid.noDots]

/-- Names go onto the stack, and nothing takes them off. -/
theorem foldl_names {names : List String} (valid : ∀ name ∈ names, ValidName name) :
    names.foldl (normalStep rooted) parts = names.reverse ++ parts := by
  induction names generalizing parts with
  | nil => rfl
  | cons name rest ih =>
    rw [List.foldl_cons, normalStep_name rooted (valid name List.mem_cons_self),
      ih fun n member => valid n (List.mem_cons_of_mem _ member)]
    simp

end Stack

namespace Entry

/-- What holds of files and links, and of a directory if it holds of its entries, holds of every
entry. -/
theorem induction {motive : Entry → Prop}
    (file : ∀ content modified, motive (.file content modified))
    (link : ∀ target, motive (.link target))
    (directory : ∀ entries : List (String × Entry), (∀ e ∈ entries, motive e.2) →
      motive (.directory entries)) (e : Entry) : motive e :=
  match e with
  | .file content modified => file content modified
  | .link target => link target
  | .directory entries =>
    directory entries fun e _ => induction file link directory e.2
termination_by sizeOf e
decreasing_by
  have smaller := List.sizeOf_lt_of_mem ‹e ∈ entries›
  obtain ⟨name, child⟩ := e
  simp only [Prod.mk.sizeOf_spec, Entry.directory.sizeOf_spec] at smaller ⊢
  omega

/-- What holds of no entries, and goes on holding with each entry of a directory in front, holds of all
its entries. -/
@[elab_as_elim]
theorem along {motive : List (String × Entry) → Prop} (entries : List (String × Entry))
    (nil : motive []) (cons : ∀ e rest, e ∈ entries → motive rest → motive (e :: rest)) :
    motive entries := by
  have some_ : ∀ es : List (String × Entry), es ⊆ entries → motive es := by
    intro es
    induction es with
    | nil => exact fun _ => nil
    | cons e rest ih =>
      intro among
      obtain ⟨listed, others⟩ := List.cons_subset.mp among
      exact cons e rest listed (ih others)
  exact some_ entries (List.Subset.refl entries)

/-- The entries of a well-formed directory have different names. -/
theorem WellFormed.distinct {entries : List (String × Entry)}
    (h : (Entry.directory entries).WellFormed) : (entries.map Prod.fst).Nodup := by
  cases h with
  | directory distinct _ _ => exact distinct

/-- The names in a well-formed directory are names that entries can have. -/
theorem WellFormed.named {entries : List (String × Entry)}
    (h : (Entry.directory entries).WellFormed) : ∀ e ∈ entries, EntryName e.1 := by
  cases h with
  | directory _ named _ => exact named

/-- The names in a well-formed directory are valid. -/
theorem WellFormed.valid {entries : List (String × Entry)}
    (h : (Entry.directory entries).WellFormed) : ∀ e ∈ entries, ValidName e.1 :=
  fun e listed => (h.named e listed).toValidName

/-- The entries of a well-formed directory are well formed. -/
theorem WellFormed.children {entries : List (String × Entry)}
    (h : (Entry.directory entries).WellFormed) : ∀ e ∈ entries, e.2.WellFormed := by
  cases h with
  | directory _ _ children => exact children

/-- Whether an entry has no entries of its own. -/
def isLeaf : Entry → Bool
  | .directory _ => false
  | _ => true

/-- A directory of files and links with different names, which entries can have, is well formed. -/
theorem wellFormed_of_leaves {entries : List (String × Entry)}
    (distinct : (entries.map Prod.fst).Nodup) (named : ∀ e ∈ entries, EntryName e.1)
    (leaves : ∀ e ∈ entries, e.2.isLeaf = true) : (Entry.directory entries).WellFormed := by
  refine .directory distinct named ?_
  rintro ⟨name, entry⟩ listed
  cases entry with
  | file content modified => exact .file content modified
  | link target => exact .link target
  | directory below => cases leaves _ listed

/-- The names on a chain through a well-formed tree are valid. -/
theorem Holds.valid {e found : Entry} {chain : List String} (h : e.Holds chain found)
    (wellFormed : e.WellFormed) : ∀ name ∈ chain, ValidName name := by
  induction h with
  | here => simp
  | down listed rest ih =>
    intro name member
    rcases List.mem_cons.mp member with rfl | member
    · exact wellFormed.valid _ listed
    · exact ih (wellFormed.children _ listed) name member

/-- A chain that ends at a directory can go on to what is in it. -/
theorem Holds.snoc {e child : Entry} {entries : List (String × Entry)} {chain : List String}
    {name : String} (h : e.Holds chain (.directory entries)) (listed : (name, child) ∈ entries) :
    e.Holds (chain ++ [name]) child := by
  generalize last : Entry.directory entries = found at h
  induction h with
  | here =>
    subst last
    exact .down listed (.here child)
  | down here rest ih => exact .down here (ih last)

/-- In a well-formed tree a chain of names leads to one entry. -/
theorem Holds.unique {e first second : Entry} {chain : List String} (h : e.Holds chain first)
    (wellFormed : e.WellFormed) (other : e.Holds chain second) : first = second := by
  induction h generalizing second with
  | here =>
    cases other with
    | here => rfl
  | @down entries name child found chain listed rest ih =>
    cases other with
    | @down _ _ child' _ _ listed' rest' =>
      have same : child' = child := by
        have := List.inj_on_of_nodup_map wellFormed.distinct listed' listed rfl
        exact congrArg Prod.snd this
      subst same
      exact ih (wellFormed.children _ listed) rest'

/-! ## Putting a tree together -/

end Entry

/-- Changing the entry under a name is changing what is under a key. -/
theorem changeEntry_eq_alter (name : String) (f : Option Entry → Entry)
    (entries : List (String × Entry)) : changeEntry name f entries = alter name f entries := by
  induction entries with
  | nil => rfl
  | cons e rest ih => rw [changeEntry, ih, alter]

namespace Entry

/-- A directory stays well formed if one of its entries is changed to a well-formed one. -/
theorem WellFormed.change {entries : List (String × Entry)} {name : String}
    {f : Option Entry → Entry} (h : (Entry.directory entries).WellFormed) (named : EntryName name)
    (changed : ∀ old : Option Entry, (∀ e, old = some e → e.WellFormed) → (f old).WellFormed) :
    (Entry.directory (changeEntry name f entries)).WellFormed := by
  rw [changeEntry_eq_alter]
  refine .directory (nodup_keys_alter name f h.distinct) ?_ ?_
  · intro e member
    rcases mem_alter member with old | ⟨old, rfl, -⟩
    · exact h.named e old
    · exact named
  · intro e member
    rcases mem_alter member with old | ⟨old, rfl, listed⟩
    · exact h.children e old
    · exact changed old fun child was => h.children (name, child) (listed child was)

/-- What is put in the place of another entry is well formed if both are. -/
theorem WellFormed.over {new : Entry} (h : new.WellFormed) (old : Option Entry)
    (was : ∀ e, old = some e → e.WellFormed) : (new.over old).WellFormed := by
  unfold Entry.over
  split
  next entries =>
    split
    · exact was _ rfl
    · exact h
  · exact h

/-- A tree stays well formed when a well-formed entry is put at a place with names that entries can
have. -/
theorem WellFormed.put {new : Entry} (h : new.WellFormed) (place : List String)
    (named : ∀ name ∈ place, EntryName name) (old : Option Entry)
    (was : ∀ e, old = some e → e.WellFormed) : (new.put place old).WellFormed := by
  induction place generalizing old with
  | nil =>
    rw [Entry.put]
    exact h.over old was
  | cons name rest ih =>
    have first : EntryName name := named name List.mem_cons_self
    have deeper := ih fun n member => named n (List.mem_cons_of_mem _ member)
    cases old with
    | none =>
      rw [Entry.put]
      refine .directory (List.nodup_singleton name) (List.forall_mem_singleton.mpr first)
        (List.forall_mem_singleton.mpr (deeper none ?_))
      intro e impossible
      cases impossible
    | some e =>
      have before := was e rfl
      cases e with
      | directory entries =>
        rw [Entry.put]
        exact before.change first deeper
      | file content modified => exact before
      | link target => exact before

end Entry

namespace FileSystem

/-- The file system without entries is well formed. -/
theorem empty_wellFormed : FileSystem.empty.WellFormed :=
  .directory List.nodup_nil (fun _ impossible => absurd impossible List.not_mem_nil)
    fun _ impossible => absurd impossible List.not_mem_nil

/-- A file system stays well formed when a well-formed entry is put at a place with names that entries
can have. -/
theorem WellFormed.put {fs : FileSystem} (h : fs.WellFormed) {place : List String}
    (named : ∀ name ∈ place, EntryName name) {entry : Entry} (new : entry.WellFormed) :
    (fs.put place entry).WellFormed := by
  cases place with
  | nil => exact h
  | cons name rest =>
    have first : EntryName name := named name List.mem_cons_self
    exact Entry.WellFormed.change h first fun old was =>
      new.put rest (fun n member => named n (List.mem_cons_of_mem _ member)) old was

end FileSystem

end DocGraph
