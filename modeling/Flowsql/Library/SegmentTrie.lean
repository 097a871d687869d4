import Mathlib

/-!
# Tries over paths

A node holds an entry and children under the segments of a path. The entries below the root are a
partial function of their paths. Insertion and removal change it at one path, pruning keeps the
entries that are wanted, and the walk along a path meets the entries of its prefixes.
-/

namespace Flowsql.Library

mutual
inductive Trie (κ ε : Type) where
  | node (entry : Option ε) (children : Children κ ε)

inductive Children (κ ε : Type) where
  | nil
  | cons (segment : κ) (child : Trie κ ε) (rest : Children κ ε)
end

variable {κ ε : Type}

namespace Trie

def entry : Trie κ ε → Option ε
  | .node entry _ => entry

def children : Trie κ ε → Children κ ε
  | .node _ children => children

def empty : Trie κ ε := .node none .nil

end Trie

namespace Children

variable [DecidableEq κ]

def find? : Children κ ε → κ → Option (Trie κ ε)
  | .nil, _ => none
  | .cons segment child rest, wanted =>
      if segment = wanted then some child else rest.find? wanted

/-- The child under a segment, put in its place or behind the others. -/
def set : Children κ ε → κ → Trie κ ε → Children κ ε
  | .nil, wanted, next => .cons wanted next .nil
  | .cons segment child rest, wanted, next =>
      if segment = wanted then .cons segment next rest else .cons segment child (rest.set wanted next)

def segments : Children κ ε → List κ
  | .nil => []
  | .cons segment _ rest => segment :: rest.segments

theorem find?_set (children : Children κ ε) (segment wanted : κ) (next : Trie κ ε) :
    (children.set segment next).find? wanted =
      if segment = wanted then some next else children.find? wanted := by
  match children with
  | .nil => rfl
  | .cons first child rest =>
      rw [set]
      split
      next here =>
        subst here
        rw [find?, find?]
        split <;> rfl
      next apart =>
        rw [find?, find?, find?_set rest segment wanted next]
        split
        next found =>
          subst found
          rw [if_neg (fun same => apart same.symm)]
        next => rfl

theorem find?_none {children : Children κ ε} {wanted : κ} :
    children.find? wanted = none ↔ wanted ∉ children.segments := by
  match children with
  | .nil => simp [find?, segments]
  | .cons segment child rest =>
      rw [find?, segments, List.mem_cons, not_or]
      split
      next here => simp [here]
      next apart => simp [find?_none, Ne.symm apart]

theorem segments_set (children : Children κ ε) (segment : κ) (next : Trie κ ε) :
    (children.set segment next).segments =
      if segment ∈ children.segments then children.segments
      else children.segments ++ [segment] := by
  match children with
  | .nil => simp [set, segments]
  | .cons first child rest =>
      rw [set]
      split
      next here => simp [segments, here]
      next apart =>
        rw [segments, segments_set rest, segments]
        by_cases held : segment ∈ rest.segments
        · simp [held]
        · simp [held, Ne.symm apart]

end Children

namespace Trie

variable [DecidableEq κ]

/-- The entry at a path. -/
def lookup : Trie κ ε → List κ → Option ε
  | trie, [] => trie.entry
  | trie, segment :: path =>
      match trie.children.find? segment with
      | none => none
      | some child => child.lookup path

/-- The entry at a path is updated or made. -/
def insert (update : Option ε → ε) : Trie κ ε → List κ → Trie κ ε
  | trie, [] => .node (some (update trie.entry)) trie.children
  | trie, segment :: path =>
      .node trie.entry (trie.children.set segment
        (((trie.children.find? segment).getD empty).insert update path))

/-- The entry at a path is taken away, and the nodes stay. -/
def remove : Trie κ ε → List κ → Trie κ ε
  | trie, [] => .node none trie.children
  | trie, segment :: path =>
      match trie.children.find? segment with
      | none => trie
      | some child => .node trie.entry (trie.children.set segment (child.remove path))

/-- The last entry that is met on the way along a path, behind a first node. -/
def deepest : Trie κ ε → Option ε → List κ → Option ε
  | _, best, [] => best
  | trie, best, segment :: path =>
      match trie.children.find? segment with
      | none => best
      | some child => child.deepest (child.entry.or best) path

end Trie

mutual
/-- The entries that are kept. Nodes without any are deleted below the first one. -/
def Trie.prune (keep : ε → Bool) : Trie κ ε → Trie κ ε
  | .node entry children => .node (entry.filter keep) (children.prune keep)

def Children.prune (keep : ε → Bool) : Children κ ε → Children κ ε
  | .nil => .nil
  | .cons segment child rest =>
      match child.prune keep with
      | .node none .nil => rest.prune keep
      | pruned => .cons segment pruned (rest.prune keep)
end

mutual
/-- All entries with their paths. -/
def Trie.items : Trie κ ε → List (List κ × ε)
  | .node entry children => entry.toList.map ([], ·) ++ children.items

def Children.items : Children κ ε → List (List κ × ε)
  | .nil => []
  | .cons segment child rest =>
      (child.items.map fun item => (segment :: item.1, item.2)) ++ rest.items
end

mutual
/-- All entries. -/
def Trie.entries : Trie κ ε → List ε
  | .node entry children => entry.toList ++ children.entries

def Children.entries : Children κ ε → List ε
  | .nil => []
  | .cons _ child rest => child.entries ++ rest.entries
end

mutual
/-- The children of every node have different segments. -/
def Trie.Distinct : Trie κ ε → Prop
  | .node _ children => children.segments.Nodup ∧ children.Distinct

def Children.Distinct : Children κ ε → Prop
  | .nil => True
  | .cons _ child rest => child.Distinct ∧ rest.Distinct
end

/-! ## Entries at paths -/

namespace Trie

variable [DecidableEq κ]

@[simp]
theorem lookup_nil (trie : Trie κ ε) : trie.lookup [] = trie.entry := by
  rw [lookup]

theorem lookup_cons (trie : Trie κ ε) (segment : κ) (path : List κ) :
    trie.lookup (segment :: path) = (trie.children.find? segment).bind (·.lookup path) := by
  rw [lookup]
  cases trie.children.find? segment <;> rfl

theorem lookup_empty (path : List κ) : (empty : Trie κ ε).lookup path = none := by
  cases path with
  | nil => rfl
  | cons segment path => rw [lookup_cons]; rfl

theorem lookup_getD_empty (found : Option (Trie κ ε)) (path : List κ) :
    (found.getD empty).lookup path = found.bind (·.lookup path) := by
  cases found with
  | none => exact lookup_empty path
  | some child => rfl

theorem lookup_insert (update : Option ε → ε) (trie : Trie κ ε) (path wanted : List κ) :
    (trie.insert update path).lookup wanted =
      if wanted = path then some (update (trie.lookup path)) else trie.lookup wanted := by
  induction path generalizing trie wanted with
  | nil =>
      cases wanted with
      | nil => simp [insert, entry]
      | cons segment wanted => simp [insert, lookup_cons, children]
  | cons segment path ih =>
      cases wanted with
      | nil => simp [insert, entry]
      | cons other wanted =>
          rw [insert, lookup_cons, children, Children.find?_set, lookup_cons, lookup_cons]
          by_cases same : segment = other
          · subst same
            rw [if_pos rfl, Option.bind_some, ih, lookup_getD_empty, lookup_getD_empty]
            simp
          · rw [if_neg same, if_neg (fun equal => same (List.cons.inj equal).1.symm)]

theorem lookup_remove (trie : Trie κ ε) (path wanted : List κ) :
    (trie.remove path).lookup wanted = if wanted = path then none else trie.lookup wanted := by
  induction path generalizing trie wanted with
  | nil =>
      cases wanted with
      | nil => simp [remove, entry]
      | cons segment wanted => simp [remove, lookup_cons, children]
  | cons segment path ih =>
      rw [remove]
      cases found : trie.children.find? segment with
      | none =>
          dsimp only
          split
          next same => rw [same, lookup_cons, found]; rfl
          next => rfl
      | some child =>
          cases wanted with
          | nil => simp [entry]
          | cons other wanted =>
              dsimp only
              rw [lookup_cons, children, Children.find?_set, lookup_cons]
              by_cases same : segment = other
              · subst same
                rw [if_pos rfl, Option.bind_some, ih, found, Option.bind_some]
                simp
              · rw [if_neg same, if_neg (fun equal => same (List.cons.inj equal).1.symm)]

end Trie

/-! ## Different segments -/

theorem Children.find?_distinct [DecidableEq κ] {children : Children κ ε} {segment : κ}
    {child : Trie κ ε} (distinct : children.Distinct)
    (found : children.find? segment = some child) : child.Distinct := by
  match children with
  | .nil => simp [find?] at found
  | .cons first other rest =>
      rw [Distinct] at distinct
      rw [find?] at found
      split at found
      next => exact Option.some.inj found ▸ distinct.1
      next => exact find?_distinct distinct.2 found

theorem Children.set_distinct [DecidableEq κ] {children : Children κ ε} {next : Trie κ ε}
    (segment : κ) (distinct : children.Distinct) (well : next.Distinct) :
    (children.set segment next).Distinct := by
  match children with
  | .nil => exact ⟨well, trivial⟩
  | .cons first other rest =>
      rw [Distinct] at distinct
      rw [set]
      split
      next => exact ⟨well, distinct.2⟩
      next => exact ⟨distinct.1, set_distinct segment distinct.2 well⟩

theorem Children.set_nodup [DecidableEq κ] {children : Children κ ε} (segment : κ)
    (next : Trie κ ε) (nodup : children.segments.Nodup) :
    (children.set segment next).segments.Nodup := by
  rw [segments_set]
  split
  next => exact nodup
  next fresh => exact List.nodup_append.2 ⟨nodup, by simp, by simp; grind⟩

namespace Trie

variable [DecidableEq κ]

omit [DecidableEq κ] in
theorem distinct_empty : (empty : Trie κ ε).Distinct := ⟨List.nodup_nil, trivial⟩

omit [DecidableEq κ] in
theorem distinct_iff (trie : Trie κ ε) :
    trie.Distinct ↔ trie.children.segments.Nodup ∧ trie.children.Distinct := by
  cases trie
  rfl

theorem insert_distinct (update : Option ε → ε) {trie : Trie κ ε} (path : List κ)
    (distinct : trie.Distinct) : (trie.insert update path).Distinct := by
  induction path generalizing trie with
  | nil => exact (distinct_iff trie).1 distinct
  | cons segment path ih =>
      obtain ⟨nodup, below⟩ := (distinct_iff trie).1 distinct
      refine ⟨Children.set_nodup segment _ nodup, Children.set_distinct segment below (ih ?_)⟩
      cases found : trie.children.find? segment with
      | none => exact distinct_empty
      | some child => exact Children.find?_distinct below found

theorem remove_distinct {trie : Trie κ ε} (path : List κ) (distinct : trie.Distinct) :
    (trie.remove path).Distinct := by
  induction path generalizing trie with
  | nil => exact (distinct_iff trie).1 distinct
  | cons segment path ih =>
      obtain ⟨nodup, below⟩ := (distinct_iff trie).1 distinct
      rw [remove]
      cases found : trie.children.find? segment with
      | none => exact distinct
      | some child =>
          exact ⟨Children.set_nodup segment _ nodup, Children.set_distinct segment below
            (ih (Children.find?_distinct below found))⟩

end Trie

/-! ## Pruning -/

theorem Children.prune_cons (keep : ε → Bool) (segment : κ) (child : Trie κ ε)
    (rest : Children κ ε) :
    (Children.cons segment child rest).prune keep = rest.prune keep ∧
        child.prune keep = .empty ∨
      (Children.cons segment child rest).prune keep =
        .cons segment (child.prune keep) (rest.prune keep) := by
  rw [Children.prune]
  split
  next pruned => exact .inl ⟨rfl, pruned⟩
  next => exact .inr rfl

theorem Children.segments_prune (keep : ε → Bool) (children : Children κ ε) :
    (children.prune keep).segments.Sublist children.segments := by
  match children with
  | .nil => exact .slnil
  | .cons segment child rest =>
      rcases prune_cons keep segment child rest with ⟨gone, -⟩ | kept
      · rw [gone]
        exact (segments_prune keep rest).cons segment
      · rw [kept]
        exact (segments_prune keep rest).cons_cons segment

mutual
theorem Trie.prune_distinct (keep : ε → Bool) {trie : Trie κ ε} (distinct : trie.Distinct) :
    (trie.prune keep).Distinct := by
  match trie with
  | .node entry children =>
      exact ⟨distinct.1.sublist (children.segments_prune keep),
        Children.prune_distinct keep distinct.2⟩

theorem Children.prune_distinct (keep : ε → Bool) {children : Children κ ε}
    (distinct : children.Distinct) : (children.prune keep).Distinct := by
  match children with
  | .nil => exact trivial
  | .cons segment child rest =>
      have others := Children.prune_distinct keep distinct.2
      rcases Children.prune_cons keep segment child rest with ⟨gone, -⟩ | kept
      · exact gone ▸ others
      · exact kept ▸ ⟨Trie.prune_distinct keep distinct.1, others⟩
end

mutual
/-- Pruning takes away the entries that are not kept. -/
theorem Trie.lookup_prune [DecidableEq κ] (keep : ε → Bool) {trie : Trie κ ε}
    (distinct : trie.Distinct) (path : List κ) :
    (trie.prune keep).lookup path = (trie.lookup path).filter keep := by
  match trie with
  | .node entry children =>
      cases path with
      | nil => simp [Trie.prune, Trie.entry]
      | cons segment path =>
          rw [Trie.lookup_cons, Trie.lookup_cons]
          exact Children.find?_prune keep distinct.1 distinct.2 segment path

theorem Children.find?_prune [DecidableEq κ] (keep : ε → Bool) {children : Children κ ε}
    (nodup : children.segments.Nodup) (distinct : children.Distinct) (segment : κ)
    (path : List κ) :
    ((children.prune keep).find? segment).bind (·.lookup path) =
      ((children.find? segment).bind (·.lookup path)).filter keep := by
  match children with
  | .nil => rfl
  | .cons first child rest =>
      obtain ⟨fresh, nodup⟩ := List.nodup_cons.1 nodup
      have here := Trie.lookup_prune keep distinct.1 path
      have there := Children.find?_prune keep nodup distinct.2 segment path
      by_cases same : first = segment
      · subst same
        have absent : (rest.prune keep).find? first = none :=
          Children.find?_none.2 fun held =>
            fresh ((rest.segments_prune keep).subset held)
        rcases Children.prune_cons keep first child rest with ⟨gone, empty⟩ | kept
        · rw [gone, absent, Children.find?, if_pos rfl, Option.bind_some, ← here, empty,
            Trie.lookup_empty]
          rfl
        · rw [kept, Children.find?, Children.find?, if_pos rfl, if_pos rfl, Option.bind_some,
            Option.bind_some, here]
      · rw [Children.find?, if_neg same, ← there]
        rcases Children.prune_cons keep first child rest with ⟨gone, -⟩ | kept
        · rw [gone]
        · rw [kept, Children.find?, if_neg same]
end

/-! ## All entries -/

theorem Children.nil_not_mem_items (children : Children κ ε) (entry : ε) :
    ([], entry) ∉ children.items := by
  match children with
  | .nil => simp [items]
  | .cons segment child rest => simp [items, nil_not_mem_items rest entry]

mutual
/-- The items are the entries at their paths. -/
theorem Trie.mem_items [DecidableEq κ] {trie : Trie κ ε} (distinct : trie.Distinct)
    {path : List κ} {entry : ε} : (path, entry) ∈ trie.items ↔ trie.lookup path = some entry := by
  match trie with
  | .node here children =>
      rw [Trie.items, List.mem_append]
      cases path with
      | nil =>
          have below : ([], entry) ∉ children.items := Children.nil_not_mem_items children entry
          simp [below, Trie.entry]
      | cons segment path =>
          have below := @Children.mem_items _ children distinct.1 distinct.2 segment path entry
          rw [Trie.lookup_cons, Trie.children, ← below]
          simp

theorem Children.mem_items [DecidableEq κ] {children : Children κ ε}
    (nodup : children.segments.Nodup) (distinct : children.Distinct) {segment : κ}
    {path : List κ} {entry : ε} :
    (segment :: path, entry) ∈ children.items ↔
      (children.find? segment).bind (·.lookup path) = some entry := by
  match children with
  | .nil => simp [Children.items, Children.find?]
  | .cons first child rest =>
      obtain ⟨fresh, nodup⟩ := List.nodup_cons.1 nodup
      have here := @Trie.mem_items _ child distinct.1 path entry
      have there := @Children.mem_items _ rest nodup distinct.2 segment path entry
      rw [Children.items, List.mem_append, there, Children.find?]
      by_cases same : first = segment
      · subst same
        rw [if_pos rfl, Children.find?_none.2 fresh, Option.bind_some, ← here]
        simp
      · rw [if_neg same]
        simp [same]
end

theorem Children.segment_mem_of_mem_items {children : Children κ ε} {segment : κ} {path : List κ}
    {entry : ε} (held : (segment :: path, entry) ∈ children.items) : segment ∈ children.segments := by
  match children with
  | .nil => simp [items] at held
  | .cons first child rest =>
      rw [items, List.mem_append] at held
      rcases held with here | there
      · obtain ⟨item, -, same⟩ := List.mem_map.1 here
        have segments := congrArg Prod.fst same
        exact (List.cons.inj segments).1 ▸ .head _
      · exact .tail _ (segment_mem_of_mem_items there)

mutual
theorem Trie.items_nodup {trie : Trie κ ε} (distinct : trie.Distinct) :
    (trie.items.map (·.1)).Nodup := by
  match trie with
  | .node entry children =>
      have below := Children.items_nodup distinct.1 distinct.2
      have fresh : [] ∉ children.items.map (·.1) := by
        intro held
        obtain ⟨⟨path, item⟩, member, rfl⟩ := List.mem_map.1 held
        exact Children.nil_not_mem_items children item member
      cases entry with
      | none => exact below
      | some entry => exact List.nodup_cons.2 ⟨fresh, below⟩

theorem Children.items_nodup {children : Children κ ε} (nodup : children.segments.Nodup)
    (distinct : children.Distinct) : (children.items.map (·.1)).Nodup := by
  match children with
  | .nil => exact List.nodup_nil
  | .cons segment child rest =>
      obtain ⟨fresh, nodup⟩ := List.nodup_cons.1 nodup
      have here := Trie.items_nodup distinct.1
      have there := Children.items_nodup nodup distinct.2
      rw [Children.items, List.map_append, List.map_map]
      have shift : ((·.1) ∘ fun item : List κ × ε => (segment :: item.1, item.2)) =
          (segment :: ·) ∘ (·.1) := rfl
      rw [shift, ← List.map_map]
      refine List.Nodup.append (here.map (List.cons_injective)) there fun path left right => ?_
      obtain ⟨tail, -, rfl⟩ := List.mem_map.1 left
      obtain ⟨⟨path, item⟩, member, same⟩ := List.mem_map.1 right
      dsimp only at same
      subst same
      exact fresh (Children.segment_mem_of_mem_items member)
end

mutual
theorem Trie.entries_eq (trie : Trie κ ε) : trie.entries = trie.items.map (·.2) := by
  match trie with
  | .node entry children =>
      rw [Trie.entries, Trie.items, List.map_append, Children.entries_eq]
      cases entry <;> rfl

theorem Children.entries_eq (children : Children κ ε) :
    children.entries = children.items.map (·.2) := by
  match children with
  | .nil => rfl
  | .cons segment child rest =>
      rw [Children.entries, Children.items, List.map_append, List.map_map, Children.entries_eq,
        Trie.entries_eq]
      rfl
end

/-! ## The longest prefix -/

/-- The entry of the longest nonempty prefix of a path that has one. -/
def longestBelow (live : List κ → Option ε) : List κ → Option ε
  | [] => none
  | segment :: path => (longestBelow (fun rest => live (segment :: rest)) path).or (live [segment])

theorem longestBelow_none (path : List κ) : longestBelow (fun _ => (none : Option ε)) path = none := by
  induction path with
  | nil => rfl
  | cons segment path ih => rw [longestBelow, ih]; rfl

/-- The walk along a path finds it. -/
theorem Trie.deepest_eq [DecidableEq κ] (trie : Trie κ ε) (best : Option ε) (path : List κ) :
    trie.deepest best path = (longestBelow trie.lookup path).or best := by
  induction path generalizing trie best with
  | nil => rw [deepest]; rfl
  | cons segment path ih =>
      rw [deepest, longestBelow]
      cases found : trie.children.find? segment with
      | none =>
          have nothing : (fun rest => trie.lookup (segment :: rest)) = fun _ => none := by
            funext rest
            rw [lookup_cons, found]
            rfl
          rw [nothing, longestBelow_none, lookup_cons, found]
          rfl
      | some child =>
          have below : (fun rest => trie.lookup (segment :: rest)) = child.lookup := by
            funext rest
            rw [lookup_cons, found]
            rfl
          dsimp only
          rw [ih, below, lookup_cons, found, Option.bind_some, lookup_nil, Option.or_assoc]

/-- What a longest-prefix match answers: the entry of the longest live prefix, or that there is
none. -/
def LongestMatch (live : List κ → Option ε) (path : List κ) : Option ε → Prop
  | some entry => ∃ found, found <+: path ∧ live found = some entry ∧
      ∀ other, other <+: path → live other ≠ none → other.length ≤ found.length
  | none => ∀ other, other <+: path → live other = none

theorem longestBelow_spec (live : List κ → Option ε) (path : List κ) :
    (∃ found entry, longestBelow live path = some entry ∧ found ≠ [] ∧ found <+: path ∧
      live found = some entry ∧
      ∀ other, other <+: path → live other ≠ none → other.length ≤ found.length) ∨
    (longestBelow live path = none ∧
      ∀ other, other ≠ [] → other <+: path → live other = none) := by
  induction path generalizing live with
  | nil =>
      refine .inr ⟨rfl, fun other some_ within => ?_⟩
      exact absurd (List.prefix_nil.1 within) some_
  | cons segment path ih =>
      have split_ {other : List κ} (some_ : other ≠ []) (within : other <+: segment :: path) :
          ∃ rest, other = segment :: rest ∧ rest <+: path := by
        obtain ⟨first, rest, rfl⟩ := List.exists_cons_of_ne_nil some_
        obtain ⟨rfl, below⟩ := List.cons_prefix_cons.1 within
        exact ⟨rest, rfl, below⟩
      rcases ih (fun rest => live (segment :: rest)) with
        ⟨found, entry, result, -, within, here, longest⟩ | ⟨result, nothing⟩
      · refine .inl ⟨segment :: found, entry, by rw [longestBelow, result]; rfl, by simp,
          List.cons_prefix_cons.2 ⟨rfl, within⟩, here, fun other inside has => ?_⟩
        by_cases empty : other = []
        · simp [empty]
        · obtain ⟨rest, rfl, below⟩ := split_ empty inside
          exact Nat.succ_le_succ (longest rest below has)
      · cases single : live [segment] with
        | some entry =>
            refine .inl ⟨[segment], entry, by rw [longestBelow, result, single]; rfl, by simp,
              List.cons_prefix_cons.2 ⟨rfl, List.nil_prefix⟩, single, fun other inside has => ?_⟩
            by_cases empty : other = []
            · simp [empty]
            · obtain ⟨rest, rfl, below⟩ := split_ empty inside
              by_cases last : rest = []
              · simp [last]
              · exact absurd (nothing rest last below) has
        | none =>
            refine .inr ⟨by rw [longestBelow, result, single]; rfl, fun other some_ inside => ?_⟩
            obtain ⟨rest, rfl, below⟩ := split_ some_ inside
            by_cases last : rest = []
            · exact last ▸ single
            · exact nothing rest last below

/-- The walk below the first node is a longest-prefix match unless the entry of the first node is the
only one. -/
theorem longestMatch_below {live : List κ → Option ε} {path : List κ} :
    LongestMatch live path (longestBelow live path) ↔
      (live [] ≠ none → ∃ other, other ≠ [] ∧ other <+: path ∧ live other ≠ none) := by
  rcases longestBelow_spec live path with
    ⟨found, entry, result, some_, within, here, longest⟩ | ⟨result, nothing⟩
  · rw [result]
    exact ⟨fun _ _ => ⟨found, some_, within, by simp [here]⟩,
      fun _ => ⟨found, within, here, longest⟩⟩
  · rw [result]
    refine ⟨fun all root => absurd (all [] List.nil_prefix) root, fun covered other inside => ?_⟩
    by_cases empty : other = []
    · subst empty
      by_contra root
      obtain ⟨below, some_, within, has⟩ := covered root
      exact has (nothing below some_ within)
    · exact nothing other empty inside

/-- Entries that are taken away elsewhere do not change the match. -/
theorem longestBelow_kept {live left : List κ → Option ε} {path found : List κ} {entry : ε}
    (some_ : found ≠ []) (within : found <+: path) (here : live found = some entry)
    (longest : ∀ other, other <+: path → live other ≠ none → other.length ≤ found.length)
    (kept : left found = live found) (taken : ∀ other, left other = live other ∨ left other = none) :
    longestBelow left path = some entry := by
  rcases longestBelow_spec left path with
    ⟨found', entry', result, -, within', here', longest'⟩ | ⟨-, nothing⟩
  · have before : live found' = some entry' := by
      rcases taken found' with same | gone
      · exact same ▸ here'
      · simp [gone] at here'
    have length : found'.length = found.length :=
      Nat.le_antisymm (longest found' within' (by simp [before]))
        (longest' found within (by simp [kept, here]))
    obtain rfl := (List.prefix_of_prefix_length_le within' within (Nat.le_of_eq length)).eq_of_length
      length
    rw [result, ← here, before]
  · have gone := nothing found some_ within
    rw [kept, here] at gone
    simp at gone

end Flowsql.Library
