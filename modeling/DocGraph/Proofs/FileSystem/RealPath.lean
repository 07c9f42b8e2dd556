import DocGraph.Proofs.FileSystem.Locate
import Mathlib

/-!
# Real paths

A path that leads to something leads through directories and links to a place in the tree, and its
real path is the path of that place. So paths that lead to the same directory have one real path,
which is that of the directory, and there are only so many.

`locate` puts the target of a link in front of what is left of the path, while `realPath` resolves
the target by itself, keeps what it has resolved, and stops at a link that it is still resolving.
`Leads` is what they have in common: where the parts of a path lead, and what it costs to find out.
The cost of a link is less than that of whatever meets it on the way, so that a path that leads
somewhere never meets a link while this is being resolved.
-/

set_option autoImplicit false

namespace DocGraph

/-! ## The places of a tree -/

mutual

/-- What is in a tree, each with its place, if the tree is at a place. -/
def Entry.spots (place : List String) : Entry → List (List String × Entry)
  | .file content modified => [(place, .file content modified)]
  | .link target => [(place, .link target)]
  | .directory entries => (place, .directory entries) :: spotsOfAll place entries

/-- The places of some entries in a directory, and of all that is below them. -/
def spotsOfAll (place : List String) : List (String × Entry) → List (List String × Entry)
  | [] => []
  | (name, e) :: rest => e.spots (place ++ [name]) ++ spotsOfAll place rest

end

/-- Whether an entry is a link. -/
def Entry.isLink : Entry → Bool
  | .link _ => true
  | _ => false

/-- Whether an entry is a directory. -/
def Entry.isDirectory : Entry → Bool
  | .directory _ => true
  | _ => false

/-- The places below a directory come entry by entry. -/
theorem spotsOfAll_eq (place : List String) (entries : List (String × Entry)) :
    spotsOfAll place entries = entries.flatMap fun e => e.2.spots (place ++ [e.1]) := by
  induction entries with
  | nil => rfl
  | cons e rest ih => rw [spotsOfAll, ih, List.flatMap_cons]

namespace Entry

/-- The places of a tree are where chains of names lead to. -/
theorem mem_spots {e found : Entry} {place at_ : List String} :
    (at_, found) ∈ e.spots place ↔ ∃ chain, at_ = place ++ chain ∧ e.Holds chain found := by
  induction e using Entry.induction generalizing place with
  | file content modified | link target =>
    constructor
    · intro member
      cases List.mem_singleton.mp member
      exact ⟨[], (List.append_nil _).symm, .here _⟩
    · rintro ⟨chain, rfl, holds⟩
      cases holds with
      | here => exact List.mem_singleton.mpr (by rw [List.append_nil])
  | directory entries ih =>
    rw [spots, spotsOfAll_eq, List.mem_cons, List.mem_flatMap]
    constructor
    · rintro (same | ⟨e, listed, inside⟩)
      · cases same
        exact ⟨[], (List.append_nil _).symm, .here _⟩
      · obtain ⟨chain, rfl, holds⟩ := (ih e listed).mp inside
        exact ⟨e.1 :: chain, by rw [List.append_assoc]; rfl, .down listed holds⟩
    · rintro ⟨chain, rfl, holds⟩
      cases holds with
      | here => exact Or.inl (by rw [List.append_nil])
      | @down _ name child _ chain listed rest =>
        refine Or.inr ⟨(name, child), listed, (ih _ listed).mpr ⟨chain, ?_, rest⟩⟩
        rw [List.append_assoc]
        rfl

/-- The links of a tree are among its places. -/
theorem links_eq (e : Entry) (place : List String) :
    e.links = ((e.spots place).filter fun s => s.2.isLink).length := by
  induction e using Entry.induction generalizing place with
  | file content modified => rfl
  | link target => rfl
  | directory entries ih =>
    have below : linksOfAll entries =
        ((spotsOfAll place entries).filter fun s => s.2.isLink).length := by
      refine along entries rfl fun e rest listed same => ?_
      rw [linksOfAll, spotsOfAll, List.filter_append, List.length_append, ← ih e listed, same]
    rw [Entry.links, spots, below]
    rfl

/-- There are no more different places of links than an entry has links. -/
theorem length_le_links {e : Entry} {places : List (List String)} (distinct : places.Nodup)
    (links : ∀ place ∈ places, ∃ target, e.Holds place (.link target)) :
    places.length ≤ e.links := by
  rw [e.links_eq [], ← List.length_map Prod.fst]
  refine (List.subperm_of_subset distinct ?_).length_le
  intro place member
  obtain ⟨target, holds⟩ := links place member
  refine List.mem_map.mpr ⟨(place, .link target), List.mem_filter.mpr ⟨?_, rfl⟩, rfl⟩
  exact mem_spots.mpr ⟨place, rfl, holds⟩

end Entry

namespace FileSystem

variable {fs : FileSystem}

/-- The paths of all directories, each reached without links. -/
def directories (fs : FileSystem) : List Path :=
  (((Entry.directory fs.top).spots []).filter fun s => s.2.isDirectory).map fun s => ⟨1, s.1⟩

/-- What is a directory in the tree is among the directories. -/
theorem mem_directories {place : List String} {entries : List (String × Entry)}
    (holds : (Entry.directory fs.top).Holds place (.directory entries)) :
    ⟨1, place⟩ ∈ fs.directories :=
  List.mem_map.mpr ⟨(place, .directory entries),
    List.mem_filter.mpr ⟨Entry.mem_spots.mpr ⟨place, rfl, holds⟩, rfl⟩, rfl⟩

/-! ## Where parts lead -/

/-- Where the target of a link starts that is in the directory at a place. -/
def startOf (target : String) (place : List String) : List String :=
  if isRooted target then [] else place

/-- From a place, parts of a path lead to another place. The number counts the links on the way,
with those on the way to their targets. -/
inductive Leads (fs : FileSystem) : Nat → List String → List String → List String → Prop
  | arrived (place : List String) : Leads fs 0 place [] place
  | stay {n : Nat} {place last rest : List String} {name : String} (dotted : name = "" ∨ name = ".")
      (on : Leads fs n place rest last) : Leads fs n place (name :: rest) last
  | up {n : Nat} {place last rest : List String} (on : Leads fs n place.dropLast rest last) :
      Leads fs n place (".." :: rest) last
  | down {n : Nat} {place last rest : List String} {name : String} {e : Entry}
      (valid : ValidName name) (there : (Entry.directory fs.top).Holds (place ++ [name]) e)
      (notLink : ∀ target, e ≠ .link target) (on : Leads fs n (place ++ [name]) rest last) :
      Leads fs n place (name :: rest) last
  | follow {n m : Nat} {place reached last rest : List String} {name target : String}
      (valid : ValidName name)
      (there : (Entry.directory fs.top).Holds (place ++ [name]) (.link target))
      (inside : Leads fs n (startOf target place) (segments target.toList) reached)
      (on : Leads fs m reached rest last) : Leads fs (n + 1 + m) place (name :: rest) last

/-- What leads along two stretches leads along the one and then along the other. -/
theorem Leads.split {n : Nat} {place last first second : List String}
    (h : fs.Leads n place (first ++ second) last) :
    ∃ k m middle, fs.Leads k place first middle ∧ fs.Leads m middle second last ∧ n = k + m := by
  generalize whole : first ++ second = parts at h
  induction h generalizing first with
  | arrived place =>
    obtain ⟨rfl, rfl⟩ := List.append_eq_nil_iff.mp whole
    exact ⟨0, 0, place, .arrived place, .arrived place, rfl⟩
  | @stay n place last rest name dotted on ih =>
    rcases List.append_eq_cons_iff.mp whole with ⟨rfl, rfl⟩ | ⟨more, rfl, rfl⟩
    · exact ⟨0, n, place, .arrived place, .stay dotted on, (Nat.zero_add n).symm⟩
    · obtain ⟨k, m, middle, front, back, sum⟩ := ih rfl
      exact ⟨k, m, middle, .stay dotted front, back, sum⟩
  | @up n place last rest on ih =>
    rcases List.append_eq_cons_iff.mp whole with ⟨rfl, rfl⟩ | ⟨more, rfl, rfl⟩
    · exact ⟨0, n, place, .arrived place, .up on, (Nat.zero_add n).symm⟩
    · obtain ⟨k, m, middle, front, back, sum⟩ := ih rfl
      exact ⟨k, m, middle, .up front, back, sum⟩
  | @down n place last rest name e valid there notLink on ih =>
    rcases List.append_eq_cons_iff.mp whole with ⟨rfl, rfl⟩ | ⟨more, rfl, rfl⟩
    · exact ⟨0, n, place, .arrived place, .down valid there notLink on, (Nat.zero_add n).symm⟩
    · obtain ⟨k, m, middle, front, back, sum⟩ := ih rfl
      exact ⟨k, m, middle, .down valid there notLink front, back, sum⟩
  | @follow n m place reached last rest name target valid there inside on _ ih =>
    rcases List.append_eq_cons_iff.mp whole with ⟨rfl, rfl⟩ | ⟨more, rfl, rfl⟩
    · exact ⟨0, _, place, .arrived place, .follow valid there inside on, (Nat.zero_add _).symm⟩
    · obtain ⟨k, m, middle, front, back, rfl⟩ := ih rfl
      exact ⟨_, m, middle, .follow valid there inside front, back, by omega⟩

/-- Parts lead to one place, at one cost. -/
theorem Leads.unique (tree : fs.WellFormed) {n m : Nat} {place parts last other : List String}
    (h : fs.Leads n place parts last) (h' : fs.Leads m place parts other) :
    n = m ∧ last = other := by
  induction h generalizing m other with
  | arrived place =>
    cases h' with
    | arrived => exact ⟨rfl, rfl⟩
  | stay dotted on ih =>
    cases h' with
    | stay _ on' => exact ih on'
    | up on' => simp at dotted
    | down valid => exact absurd dotted (not_or.mpr ⟨valid.nonempty, valid.noDot⟩)
    | follow valid => exact absurd dotted (not_or.mpr ⟨valid.nonempty, valid.noDot⟩)
  | up on ih =>
    cases h' with
    | stay dotted on' => simp at dotted
    | up on' => exact ih on'
    | down valid => exact absurd rfl valid.noDots
    | follow valid => exact absurd rfl valid.noDots
  | down valid there notLink on ih =>
    cases h' with
    | stay dotted on' => exact absurd dotted (not_or.mpr ⟨valid.nonempty, valid.noDot⟩)
    | up on' => exact absurd rfl valid.noDots
    | down _ _ _ on' => exact ih on'
    | follow _ there' => exact absurd (there.unique tree there') (notLink _)
  | follow valid there inside on ihInside ih =>
    cases h' with
    | stay dotted on' => exact absurd dotted (not_or.mpr ⟨valid.nonempty, valid.noDot⟩)
    | up on' => exact absurd rfl valid.noDots
    | down _ there' notLink => exact absurd (there'.unique tree there) (notLink _)
    | follow _ there' inside' on' =>
      cases there.unique tree there'
      obtain ⟨rfl, rfl⟩ := ihInside inside'
      obtain ⟨rfl, rfl⟩ := ih on'
      exact ⟨rfl, rfl⟩

/-! ## As paths are opened -/

/-- An entry stands at a place, with the directories over it, nearest first. -/
inductive Stands (fs : FileSystem) : List String → List Entry → Entry → Prop
  | top : Stands fs [] [] (.directory fs.top)
  | under {place : List String} {above : List Entry} {entries : List (String × Entry)}
      {name : String} {e : Entry} (outer : Stands fs place above (.directory entries))
      (listed : (name, e) ∈ entries) : Stands fs (place ++ [name]) (.directory entries :: above) e

/-- What stands at a place is held there by the top. -/
theorem Stands.holds {place : List String} {above : List Entry} {e : Entry}
    (h : fs.Stands place above e) : (Entry.directory fs.top).Holds place e := by
  induction h with
  | top => exact .here _
  | under outer listed ih => exact ih.snoc listed

/-- The target of the link at a place leads to another place, at some cost. -/
def LinkLeads (fs : FileSystem) (here : List String) (n : Nat) (last : List String) : Prop :=
  ∃ place name target, here = place ++ [name] ∧
    (Entry.directory fs.top).Holds here (.link target) ∧
    fs.Leads n (startOf target place) (segments target.toList) last

/-- A link leads to one place, at one cost. -/
theorem LinkLeads.unique (tree : fs.WellFormed) {here last other : List String} {n m : Nat}
    (h : fs.LinkLeads here n last) (h' : fs.LinkLeads here m other) : n = m ∧ last = other := by
  obtain ⟨place, name, target, rfl, there, leads⟩ := h
  obtain ⟨place', name', target', same, there', leads'⟩ := h'
  obtain ⟨rfl, -⟩ := List.append_inj' same rfl
  cases there.unique tree there'
  exact leads.unique tree leads'

/-- What is kept of links is right, and those that are still being resolved are known. -/
structure Sound (fs : FileSystem) (met : Resolutions) (opens : List (List String)) : Prop where
  resolved : ∀ here last, met.lookup here = some (some last) → ∃ n, fs.LinkLeads here n last
  pending : ∀ here, met.lookup here = some none → here ∈ opens

/-- The links that are being resolved are different, and none of them costs less than what is still
to be done for its sake. -/
structure Costly (fs : FileSystem) (opens : List (List String)) (cost : Nat) : Prop where
  distinct : opens.Nodup
  above : ∀ here ∈ opens, ∃ n last, fs.LinkLeads here n last ∧ cost ≤ n

/-- What costs no less than a number costs no less than a smaller one. -/
theorem Costly.mono {opens : List (List String)} {few many : Nat} (h : fs.Costly opens many)
    (le : few ≤ many) : fs.Costly opens few := by
  refine ⟨h.distinct, fun here member => ?_⟩
  obtain ⟨n, last, leads, above⟩ := h.above here member
  exact ⟨n, last, leads, le.trans above⟩

/-- A link that costs less than what is to be done is not being resolved. -/
theorem Costly.not_mem (tree : fs.WellFormed) {opens : List (List String)} {cost n : Nat}
    {here last : List String} (h : fs.Costly opens cost) (leads : fs.LinkLeads here n last)
    (less : n < cost) : here ∉ opens := by
  intro member
  obtain ⟨m, other, leads', above⟩ := h.above here member
  obtain ⟨rfl, -⟩ := leads.unique tree leads'
  omega

/-- A link that costs less than those that are open goes on top of them. -/
theorem Costly.cons (tree : fs.WellFormed) {opens : List (List String)} {cost n : Nat}
    {here last : List String} (h : fs.Costly opens cost) (leads : fs.LinkLeads here n last)
    (less : n < cost) : fs.Costly (here :: opens) n := by
  refine ⟨List.nodup_cons.mpr ⟨h.not_mem tree leads less, h.distinct⟩, ?_⟩
  intro other member
  rcases List.mem_cons.mp member with rfl | old
  · exact ⟨n, last, leads, le_rfl⟩
  · exact (h.mono less.le).above other old

/-- No more links can be open at a time than there are. -/
theorem Costly.length_le {opens : List (List String)} {cost : Nat} (h : fs.Costly opens cost) :
    opens.length ≤ fs.linkCount := by
  refine Entry.length_le_links (e := .directory fs.top) h.distinct fun here member => ?_
  obtain ⟨n, last, ⟨place, name, target, rfl, there, -⟩, -⟩ := h.above here member
  exact ⟨target, there⟩

/-- A link that was resolved is noted with the place that it leads to. -/
theorem Sound.finish {met : Resolutions} {opens : List (List String)} {here last : List String}
    {n : Nat} (h : fs.Sound met (here :: opens)) (leads : fs.LinkLeads here n last) :
    fs.Sound ((here, some last) :: met) opens := by
  constructor
  · intro other last' found
    rw [List.lookup_cons] at found
    split at found
    next same =>
      obtain rfl := eq_of_beq same
      cases found
      exact ⟨n, leads⟩
    · exact h.resolved other last' found
  · intro other found
    rw [List.lookup_cons] at found
    split at found
    · cases found
    next differ =>
      refine (List.mem_cons.mp (h.pending other found)).resolve_left ?_
      rintro rfl
      simp at differ

end FileSystem

end DocGraph
