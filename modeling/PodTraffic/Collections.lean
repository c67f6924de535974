/-!
# Sorted lists, maps and listings

Lists are sorted by insertion, so that every step is structural; `distinct` keeps one of equal
elements and depends only on which elements there are. Finite maps are key-sorted lists of entries,
so every traversal is in key order, and two maps with the same bindings are the same value. Keys of
objects in a cluster and of table cells are pairs of names, ordered by the first name, then the
second. Listings keep values under names in the order in which the names were first bound.
-/
namespace PodTraffic

namespace Ordered

variable {α : Type}

def insertBy (cmp : α → α → Ordering) (a : α) : List α → List α
  | [] => [a]
  | b :: bs => if cmp a b = .gt then b :: insertBy cmp a bs else a :: b :: bs

def sortBy (cmp : α → α → Ordering) (l : List α) : List α := l.foldr (insertBy cmp) []

def sort [Ord α] (l : List α) : List α := sortBy compare l

def insertNew [Ord α] (a : α) : List α → List α
  | [] => [a]
  | b :: bs =>
    match compare a b with
    | .lt => a :: b :: bs
    | .eq => b :: bs
    | .gt => b :: insertNew a bs

def distinct [Ord α] (l : List α) : List α := l.foldr insertNew []

theorem mem_insertNew [Ord α] [Std.LawfulEqOrd α] {a x : α} {l : List α} :
    x ∈ insertNew a l ↔ x = a ∨ x ∈ l := by
  induction l with
  | nil => simp [insertNew]
  | cons b bs ih =>
    rw [insertNew]
    split
    · simp
    · next h => simp [Std.LawfulEqOrd.eq_of_compare h]
    · simp only [List.mem_cons, ih]; grind

theorem mem_distinct [Ord α] [Std.LawfulEqOrd α] {x : α} {l : List α} :
    x ∈ distinct l ↔ x ∈ l := by
  induction l with
  | nil => simp [distinct]
  | cons a as ih => rw [distinct, List.foldr_cons, mem_insertNew, ← distinct, ih, List.mem_cons]

end Ordered

structure SortedMap (κ α : Type) [Ord κ] where
  entries : List (κ × α)
  sorted : entries.Pairwise (fun a b => compare a.1 b.1 = .lt)
  deriving DecidableEq

namespace SortedMap

variable {κ α β : Type} [Ord κ]

def empty : SortedMap κ α := ⟨[], .nil⟩

instance : EmptyCollection (SortedMap κ α) := ⟨empty⟩
instance : Inhabited (SortedMap κ α) := ⟨empty⟩

def keys (m : SortedMap κ α) : List κ := m.entries.map (·.1)

def values (m : SortedMap κ α) : List α := m.entries.map (·.2)

def isEmpty (m : SortedMap κ α) : Bool := m.entries.isEmpty

def size (m : SortedMap κ α) : Nat := m.entries.length

def get? [BEq κ] (m : SortedMap κ α) (k : κ) : Option α := m.entries.lookup k

def contains [BEq κ] (m : SortedMap κ α) (k : κ) : Bool := (m.get? k).isSome

/-- One pass: before the first larger key, or over an equal one. -/
def insertEntry (k : κ) (x : α) : List (κ × α) → List (κ × α)
  | [] => [(k, x)]
  | (k', x') :: rest =>
    match compare k k' with
    | .lt => (k, x) :: (k', x') :: rest
    | .eq => (k, x) :: rest
    | .gt => (k', x') :: insertEntry k x rest

theorem mem_insertEntry {k : κ} {x : α} {e : κ × α} {l : List (κ × α)} :
    e ∈ insertEntry k x l → e = (k, x) ∨ e ∈ l := by
  induction l with
  | nil => simp [insertEntry]
  | cons hd tl ih =>
    rw [insertEntry]
    split <;> grind

theorem pairwise_insertEntry [Std.TransOrd κ] (k : κ) (x : α) {l : List (κ × α)}
    (h : l.Pairwise (fun a b => compare a.1 b.1 = .lt)) :
    (insertEntry k x l).Pairwise (fun a b => compare a.1 b.1 = .lt) := by
  induction l with
  | nil => simp [insertEntry]
  | cons hd tl ih =>
    obtain ⟨first, rest⟩ := List.pairwise_cons.mp h
    rw [insertEntry]
    split
    · next hlt =>
      refine List.pairwise_cons.mpr ⟨fun e he => ?_, h⟩
      rcases List.mem_cons.mp he with rfl | he
      · exact hlt
      · exact Std.TransCmp.lt_trans hlt (first e he)
    · next heq =>
      exact List.pairwise_cons.mpr
        ⟨fun e he => Std.TransCmp.lt_of_eq_of_lt heq (first e he), rest⟩
    · next hgt =>
      refine List.pairwise_cons.mpr ⟨fun e he => ?_, ih rest⟩
      rcases mem_insertEntry he with rfl | he
      · exact Std.OrientedCmp.lt_of_gt hgt
      · exact first e he

def insert [Std.TransOrd κ] (m : SortedMap κ α) (k : κ) (x : α) : SortedMap κ α :=
  ⟨insertEntry k x m.entries, pairwise_insertEntry k x m.sorted⟩

/-- Later entries win. -/
def ofList [Std.TransOrd κ] (l : List (κ × α)) : SortedMap κ α :=
  l.foldl (fun m e => m.insert e.1 e.2) empty

def filter (p : κ → α → Bool) (m : SortedMap κ α) : SortedMap κ α :=
  ⟨m.entries.filter fun e => p e.1 e.2, m.sorted.filter _⟩

def erase [BEq κ] (m : SortedMap κ α) (k : κ) : SortedMap κ α :=
  m.filter fun k' _ => !(k' == k)

def mapWithKey (f : κ → α → β) (m : SortedMap κ α) : SortedMap κ β :=
  ⟨m.entries.map fun e => (e.1, f e.1 e.2), by
    rw [List.pairwise_map]; exact m.sorted⟩

def map (f : α → β) (m : SortedMap κ α) : SortedMap κ β := m.mapWithKey fun _ => f

/-- Replace the value at a key that is present; an absent key stays absent. -/
def adjust [BEq κ] (m : SortedMap κ α) (k : κ) (f : α → α) : SortedMap κ α :=
  m.mapWithKey fun k' x => if k' == k then f x else x

/-- Insert or combine: `f` sees the present value, if any. -/
def alter [BEq κ] [Std.TransOrd κ] (m : SortedMap κ α) (k : κ) (f : Option α → α) :
    SortedMap κ α :=
  m.insert k (f (m.get? k))

/-- Values at keys of both are combined. -/
def unionWith [BEq κ] [Std.TransOrd κ] (f : α → α → α) (m n : SortedMap κ α) :
    SortedMap κ α :=
  n.entries.foldl (fun m e => m.alter e.1 fun present => (present.map (f · e.2)).getD e.2) m

end SortedMap

structure NamePair where
  first : String
  second : String
  deriving DecidableEq, Repr

namespace NamePair

instance : Ord NamePair := ⟨compareLex (compareOn first) (compareOn second)⟩

instance : Std.TransOrd NamePair :=
  inferInstanceAs (Std.TransCmp (compareLex (compareOn first) (compareOn second)))

/-- With a slash between. -/
def text (p : NamePair) : String := p.first ++ "/" ++ p.second

end NamePair

abbrev Listing (α : Type) := List (String × α)

namespace Listing

variable {α : Type}

def contains (l : Listing α) (name : String) : Bool := l.any (·.1 == name)

/-- Bind a name: over an earlier binding in place, else at the end. -/
def put (l : Listing α) (name : String) (x : α) : Listing α :=
  if contains l name then l.map fun entry => if entry.1 == name then (name, x) else entry
  else l ++ [(name, x)]

def erase (l : Listing α) (name : String) : Listing α := l.filter (·.1 != name)

def ofList (entries : List (String × α)) : Listing α :=
  entries.foldl (fun l entry => put l entry.1 entry.2) []

def values (l : Listing α) : List α := l.map (·.2)

end Listing
end PodTraffic
