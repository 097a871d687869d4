import Flowsql.Library.SegmentTrie

/-!
# The route table of the gateway

Prefixes are registered with the address of a service and found again by the segments of a request. The
table is a trie; what it stands for is a partial function from segments to routes.
-/

namespace Flowsql.Gateway

open Flowsql.Library

structure RouteEntry where
  routePrefix : String
  address : String
  lastSeenMs : Int
  deriving DecidableEq

abbrev RouteTable := Trie String RouteEntry

/-- The segments between the slashes that are not empty. -/
def splitPath (uri : String) : List String :=
  ((uri.toList.splitOn '/').filter (· ≠ [])).map String.ofList

namespace RouteTable

variable (table : RouteTable)

/-- The entry of a registration. A prefix that is already there keeps its text. -/
def registered (routePrefix address : String) (nowMs : Int) : Option RouteEntry → RouteEntry
  | some entry => { entry with address := address, lastSeenMs := nowMs }
  | none => { routePrefix := routePrefix, address := address, lastSeenMs := nowMs }

def register (routePrefix address : String) (nowMs : Int) : RouteTable :=
  table.insert (registered routePrefix address nowMs) (splitPath routePrefix)

def unregister (routePrefix : String) : RouteTable := table.remove (splitPath routePrefix)

/-- The entry of the root is not looked at. -/
def match? (uri : String) : Option RouteEntry := table.deepest none (splitPath uri)

def removeExpired (beforeMs : Int) : RouteTable :=
  table.prune fun entry => !decide (entry.lastSeenMs < beforeMs)

def getAll : List RouteEntry := table.entries

end RouteTable

/-! ## Runs -/

inductive RouteCall where
  | register (routePrefix address : String) (nowMs : Int)
  | unregister (routePrefix : String)
  | removeExpired (beforeMs : Int)

def RouteTable.call (table : RouteTable) : RouteCall → RouteTable
  | .register routePrefix address nowMs => table.register routePrefix address nowMs
  | .unregister routePrefix => table.unregister routePrefix
  | .removeExpired beforeMs => table.removeExpired beforeMs

def RouteTable.callAll (calls : List RouteCall) : RouteTable :=
  calls.foldl RouteTable.call Trie.empty

/-- The routes that a table stands for. -/
abbrev Routes := List String → Option RouteEntry

/-- What a call means for the routes. -/
def Routes.call (routes : Routes) : RouteCall → Routes
  | .register routePrefix address nowMs =>
      Function.update routes (splitPath routePrefix)
        (some (RouteTable.registered routePrefix address nowMs (routes (splitPath routePrefix))))
  | .unregister routePrefix => Function.update routes (splitPath routePrefix) none
  | .removeExpired beforeMs => fun path =>
      (routes path).filter fun entry => !decide (entry.lastSeenMs < beforeMs)

def Routes.callAll (calls : List RouteCall) : Routes := calls.foldl Routes.call fun _ => none

/-- The table stands for the routes. -/
structure Stands (table : RouteTable) (routes : Routes) : Prop where
  distinct : table.Distinct
  lookup : table.lookup = routes

theorem stands_call {table : RouteTable} {routes : Routes} (stands : Stands table routes)
    (call : RouteCall) : Stands (table.call call) (routes.call call) := by
  obtain ⟨distinct, rfl⟩ := stands
  cases call with
  | register routePrefix address nowMs =>
      refine ⟨Trie.insert_distinct _ _ distinct, funext fun path => ?_⟩
      refine (Trie.lookup_insert ..).trans ?_
      rw [Routes.call, Function.update_apply]
  | unregister routePrefix =>
      refine ⟨Trie.remove_distinct _ distinct, funext fun path => ?_⟩
      refine (Trie.lookup_remove ..).trans ?_
      rw [Routes.call, Function.update_apply]
  | removeExpired beforeMs =>
      exact ⟨Trie.prune_distinct _ distinct, funext (Trie.lookup_prune _ distinct)⟩

theorem stands_callAll (calls : List RouteCall) :
    Stands (RouteTable.callAll calls) (Routes.callAll calls) := by
  induction calls using List.reverseRecOn with
  | nil => exact ⟨Trie.distinct_empty, funext Trie.lookup_empty⟩
  | append_singleton calls call ih =>
      rw [RouteTable.callAll, Routes.callAll, List.foldl_append, List.foldl_append]
      exact stands_call ih call

theorem Stands.match_eq {table : RouteTable} {routes : Routes} (stands : Stands table routes)
    (uri : String) : table.match? uri = longestBelow routes (splitPath uri) := by
  rw [RouteTable.match?, Trie.deepest_eq, stands.lookup, Option.or_none]

/-- The entries that a table lists are those of its routes. -/
theorem Stands.getAll_eq {table : RouteTable} {routes : Routes} (stands : Stands table routes) :
    ∃ items : List (List String × RouteEntry), (items.map (·.1)).Nodup ∧
      (∀ path entry, (path, entry) ∈ items ↔ routes path = some entry) ∧
      table.getAll = items.map (·.2) := by
  refine ⟨table.items, Trie.items_nodup stands.distinct, fun path entry => ?_,
    Trie.entries_eq table⟩
  rw [Trie.mem_items stands.distinct, stands.lookup]

/-- A match that one prefix has decided is not changed by what is taken away from others. -/
theorem Stands.match_kept {table left : RouteTable} {routes remaining : Routes}
    (stands : Stands table routes) (after : Stands left remaining) {uri : String}
    {found : List String} {entry : RouteEntry} (some_ : found ≠ [])
    (within : found <+: splitPath uri) (here : routes found = some entry)
    (longest : ∀ other, other <+: splitPath uri → routes other ≠ none →
      other.length ≤ found.length)
    (kept : remaining found = routes found)
    (taken : ∀ other, remaining other = routes other ∨ remaining other = none) :
    left.match? uri = some entry ∧ table.match? uri = some entry := by
  rw [after.match_eq, stands.match_eq]
  exact ⟨longestBelow_kept some_ within here longest kept taken,
    longestBelow_kept some_ within here longest rfl fun _ => .inl rfl⟩

/-- The prefix that decides a match. -/
structure Decides (routes : Routes) (uri : String) (found : List String) (entry : RouteEntry) :
    Prop where
  below : found ≠ []
  within : found <+: splitPath uri
  here : routes found = some entry
  longest : ∀ other, other <+: splitPath uri → routes other ≠ none → other.length ≤ found.length

/-- In every state a match is that of the longest live prefix exactly where the root is not the only live
prefix of the request. The list of all routes is right, and neither removing another prefix nor
expiring older ones changes a match. -/
theorem match_longest_prefix (calls : List RouteCall) (uri : String) :
    (LongestMatch (Routes.callAll calls) (splitPath uri)
        ((RouteTable.callAll calls).match? uri) ↔
      (Routes.callAll calls [] ≠ none → ∃ path, path ≠ [] ∧ path <+: splitPath uri ∧
        Routes.callAll calls path ≠ none)) ∧
    (∃ items : List (List String × RouteEntry), (items.map (·.1)).Nodup ∧
      (∀ path entry, (path, entry) ∈ items ↔ Routes.callAll calls path = some entry) ∧
      (RouteTable.callAll calls).getAll = items.map (·.2)) ∧
    ∀ found entry, Decides (Routes.callAll calls) uri found entry →
      (RouteTable.callAll calls).match? uri = some entry ∧
      (∀ routePrefix, splitPath routePrefix ≠ found →
        ((RouteTable.callAll calls).unregister routePrefix).match? uri = some entry) ∧
      ∀ beforeMs, beforeMs ≤ entry.lastSeenMs →
        ((RouteTable.callAll calls).removeExpired beforeMs).match? uri = some entry := by
  have stands := stands_callAll calls
  refine ⟨?_, stands.getAll_eq, fun found entry decides => ⟨?_, fun routePrefix other => ?_,
    fun beforeMs fresh => ?_⟩⟩
  · rw [stands.match_eq]
    exact longestMatch_below
  · exact (stands.match_kept stands decides.below decides.within decides.here decides.longest rfl
      fun _ => .inl rfl).1
  · refine (stands.match_kept (stands_call stands (.unregister routePrefix)) decides.below
      decides.within decides.here decides.longest (Function.update_of_ne other.symm ..)
      fun path => ?_).1
    rw [Routes.call, Function.update_apply]
    split
    next => exact .inr rfl
    next => exact .inl rfl
  · refine (stands.match_kept (stands_call stands (.removeExpired beforeMs)) decides.below
      decides.within decides.here decides.longest ?_ fun path => ?_).1
    · rw [Routes.call, decides.here]
      dsimp only
      rw [decides.here, Option.filter_some]
      simp only [Int.not_lt.2 fresh, decide_false, Bool.not_false, if_true]
    · rw [Routes.call]
      dsimp only
      cases Routes.callAll calls path with
      | none => exact .inl rfl
      | some other =>
          rw [Option.filter_some]
          split
          next => exact .inl rfl
          next => exact .inr rfl

/-- A route of the root is listed, but no request is matched by it. -/
theorem root_never_matches :
    ¬ LongestMatch (Routes.callAll [.register "/" "127.0.0.1:18803" 0]) (splitPath "/channels")
        ((RouteTable.callAll [.register "/" "127.0.0.1:18803" 0]).match? "/channels") ∧
      (RouteTable.callAll [.register "/" "127.0.0.1:18803" 0]).getAll =
        [{ routePrefix := "/", address := "127.0.0.1:18803", lastSeenMs := 0 }] := by
  have unmatched : (RouteTable.callAll [.register "/" "127.0.0.1:18803" 0]).match? "/channels" =
      none := by
    decide +kernel
  refine ⟨fun wrong => ?_, by decide +kernel⟩
  rw [unmatched] at wrong
  have root := wrong [] List.nil_prefix
  revert root
  decide +kernel

/-- A route stands where its own prefix leads. -/
theorem splitPath_of_route {calls : List RouteCall} {path : List String} {entry : RouteEntry}
    (held : Routes.callAll calls path = some entry) : splitPath entry.routePrefix = path := by
  induction calls using List.reverseRecOn generalizing path entry with
  | nil => cases held
  | append_singleton calls call ih =>
      rw [Routes.callAll, List.foldl_append] at held
      change (Routes.callAll calls).call call path = some entry at held
      cases call with
      | register routePrefix address nowMs =>
          rw [Routes.call, Function.update_apply] at held
          split at held
          · next here =>
              cases held
              cases before : Routes.callAll calls (splitPath routePrefix) with
              | none => exact here.symm
              | some old => exact (ih before).trans here.symm
          · exact ih held
      | unregister routePrefix =>
          rw [Routes.call, Function.update_apply] at held
          split at held
          · cases held
          · exact ih held
      | removeExpired beforeMs => exact ih (Option.filter_eq_some_iff.1 held).1

/-- The list of all routes decides every match: two runs after which it has the same entries, in any
order, match every request alike. -/
theorem match_of_getAll {calls others : List RouteCall}
    (same : ∀ entry, entry ∈ (RouteTable.callAll calls).getAll ↔
      entry ∈ (RouteTable.callAll others).getAll) (uri : String) :
    (RouteTable.callAll calls).match? uri = (RouteTable.callAll others).match? uri := by
  have listed (calls : List RouteCall) (path : List String) (entry : RouteEntry) :
      Routes.callAll calls path = some entry ↔
        entry ∈ (RouteTable.callAll calls).getAll ∧ splitPath entry.routePrefix = path := by
    obtain ⟨items, -, held, all⟩ := (stands_callAll calls).getAll_eq
    rw [all, ← held]
    constructor
    · intro member
      exact ⟨List.mem_map_of_mem member, splitPath_of_route ((held path entry).1 member)⟩
    · rintro ⟨member, rfl⟩
      obtain ⟨⟨path, entry⟩, inside, rfl⟩ := List.mem_map.1 member
      rwa [splitPath_of_route ((held ..).1 inside)]
  have routes : Routes.callAll calls = Routes.callAll others := by
    funext path
    ext entry
    rw [listed, listed, same]
  rw [(stands_callAll calls).match_eq, (stands_callAll others).match_eq, routes]

theorem match_of_getAll_unregistered :
    (RouteTable.callAll [.register "/a/" "x" 5, .register "/b" "y" 5, .unregister "b"]).match? "/a/c" =
      (RouteTable.callAll [.register "/a/" "x" 5]).match? "/a/c" :=
  match_of_getAll (fun entry => Eq.to_iff (congrArg (entry ∈ ·) (by decide +kernel))) _

end Flowsql.Gateway
