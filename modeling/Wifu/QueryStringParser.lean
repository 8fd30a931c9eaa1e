import Mathlib
import Wifu.Lib.Loop

/-!
# Query strings (`QueryStringParser.cc`)

`create` writes a name and a map as `name?key=value&key=value&`; `parse` reads such a string back.  A string that was
not found is at `npos`, the greatest `size_t`, and the position after it is `0`.

The round trip goes by the text that the parser still has before it: at the head of the loop it is the text of the pairs
that are still to be read (`loop_pairs`).
-/

namespace Wifu

/-- `gcstring`. -/
abbrev GCString := List Char

/-- `gcstring_map`. -/
abbrev GCStringMap := Std.TreeMap GCString GCString

/-- `NAME_STRING` of `defines.h`. -/
def nameString : GCString := ['n', 'a', 'm', 'e']

namespace QueryStringParser

/-- What `parse` throws: an exception of its own, or the one of `substr`. -/
inductive ParseException
  | wiFuException (text : String)
  | outOfRange
  deriving DecidableEq, Repr

/-! ### Strings -/

/-- `find_first_of`; `none` is `npos`. -/
def findFirstOf (message : GCString) (c : Char) (pos : Nat) : Option Nat :=
  ((message.drop pos).idxOf? c).map (pos + ·)

/-- `end + 1`, which is `0` for `npos`. -/
def next : Option Nat → Nat
  | some stop => stop + 1
  | none => 0

/-- `message.substr(start, stop - start)`: from `npos` on, no less than the rest of the message. -/
def substr (message : GCString) (start : Nat) (stop : Option Nat) : Except ParseException GCString :=
  if message.length < start then .error .outOfRange
  else
    match stop with
    | some stop => .ok ((message.drop start).take (stop - start))
    | none => .ok (message.drop start)

/-! ### Parsing -/

/-- The variables of the loop of `parse`: `end`, where the last search stopped, and the map. -/
structure Scan where
  stop : Option Nat
  values : GCStringMap

/-- One pass of the loop. -/
def pass (message : GCString) (s : Scan) : Except ParseException (ForInStep Scan) :=
  let start := next s.stop
  if message.length ≤ start then .ok (.done s)
  else do
    let stop := findFirstOf message '=' start
    let key ← substr message start stop
    let start := next stop
    let stop := findFirstOf message '&' start
    let value ← substr message start stop
    pure (.yield { stop, values := s.values.insertIfNew key value })

/-- `parse` up to its loop. -/
def enter (message : GCString) (values : GCStringMap) : Except ParseException Scan :=
  match findFirstOf message '?' 0 with
  | none => .error (.wiFuException "Malformed query")
  | some stop => do
    let name ← substr message 0 (some stop)
    pure { stop := some stop, values := values.insertIfNew nameString name }

/-- `parse`, with at most `n` passes of its loop: the map, when it has returned by then. -/
def parse (n : Nat) (message : GCString) (values : GCStringMap) : Option (Except ParseException GCStringMap) :=
  match enter message values with
  | .error e => some (.error e)
  | .ok s => (Loop.run (pass message) n s).map fun r => r.map (·.values)

/-- `create`. -/
def create (name : GCString) (values : GCStringMap) : GCString :=
  values.foldl (fun message key value => message ++ (key ++ ['='] ++ value ++ ['&'])) (name ++ ['?'])

/-! ### Searches in a text that is known up to a character -/

section Search

variable {message u v : GCString} {c : Char} {pos : Nat}

theorem findFirstOf_eq (h : message.drop pos = u ++ c :: v) (hc : c ∉ u) :
    findFirstOf message c pos = some (pos + u.length) := by
  have hidx : (u ++ c :: v).idxOf? c = some u.length := by
    rw [List.idxOf?_eq_some_iff]
    refine ⟨by simp, by simp, fun j hj heq => hc ?_⟩
    rw [List.getElem_append_left hj] at heq
    exact heq ▸ List.getElem_mem hj
  rw [findFirstOf, h, hidx, Option.map_some]

theorem findFirstOf_eq_none : findFirstOf message c pos = none ↔ c ∉ message.drop pos := by
  simp [findFirstOf]

/-- A search that stops splits the text it started with. -/
theorem exists_split (hc : c ∈ message.drop pos) :
    ∃ u v, message.drop pos = u ++ c :: v ∧ c ∉ u ∧ findFirstOf message c pos = some (pos + u.length) := by
  obtain ⟨u, v, h, hu⟩ := List.eq_append_cons_of_mem hc
  exact ⟨u, v, h, hu, findFirstOf_eq h hu⟩

/-- The text behind the character that was found. -/
theorem drop_next (h : message.drop pos = u ++ c :: v) : message.drop (next (some (pos + u.length))) = v := by
  rw [next, Nat.add_assoc, ← List.drop_drop, h, ← List.drop_drop, List.drop_left, List.drop_one, List.tail_cons]

theorem start_le (h : message.drop pos = u ++ c :: v) : pos ≤ message.length := by
  have := congrArg List.length h
  simp only [List.length_drop, List.length_append, List.length_cons] at this
  omega

/-- The text before the character that was found. -/
theorem substr_eq (h : message.drop pos = u ++ c :: v) : substr message pos (some (pos + u.length)) = .ok u := by
  rw [substr, if_neg (by have := start_le h; omega), h, Nat.add_sub_cancel_left, List.take_left]

end Search

/-! ### Pairs -/

/-- A key and its value as `create` writes them. -/
def pairText (p : GCString × GCString) : GCString := p.1 ++ '=' :: (p.2 ++ ['&'])

/-- The text of several pairs. -/
def pairsText (ps : List (GCString × GCString)) : GCString := ps.flatMap pairText

/-- A pair that can be read back. -/
def Readable (p : GCString × GCString) : Prop := '=' ∉ p.1 ∧ '&' ∉ p.2

/-- `insert` keeps the entry that is there. -/
def insertPairs (values : GCStringMap) (ps : List (GCString × GCString)) : GCStringMap :=
  ps.foldl (fun values p => values.insertIfNew p.1 p.2) values

section Pairs

variable {message : GCString} {s : Scan} {p : GCString × GCString} {ps : List (GCString × GCString)}

/-- The text that is before the parser at the head of the loop. -/
def Scan.rest (message : GCString) (s : Scan) : GCString := message.drop (next s.stop)

theorem pass_nil (h : s.rest message = []) : pass message s = .ok (.done s) := by
  rw [pass, if_pos (List.drop_eq_nil_iff.1 h)]

/-- One pass reads one pair. -/
theorem pass_pair {tail : GCString} (hp : Readable p) (h : s.rest message = pairText p ++ tail) :
    ∃ t, pass message s = .ok (.yield t) ∧ t.stop ≠ none ∧ t.rest message = tail ∧
      t.values = s.values.insertIfNew p.1 p.2 := by
  have hkey : message.drop (next s.stop) = p.1 ++ '=' :: (p.2 ++ '&' :: tail) := by
    rw [← Scan.rest, h, pairText]
    simp
  have hvalue := drop_next hkey
  have hne : ¬message.length ≤ next s.stop := by
    rw [← List.drop_eq_nil_iff, hkey]
    simp
  refine ⟨{ stop := some (next (some (next s.stop + p.1.length)) + p.2.length)
            values := s.values.insertIfNew p.1 p.2 }, ?_, Option.some_ne_none _, drop_next hvalue, rfl⟩
  rw [pass, if_neg hne]
  simp only [findFirstOf_eq hkey hp.1, substr_eq hkey, findFirstOf_eq hvalue hp.2, substr_eq hvalue]
  rfl

/-- The loop reads the pairs one by one and breaks behind the last one. -/
theorem loop_pairs (hps : ∀ p ∈ ps, Readable p) (h : s.rest message = pairsText ps) (hs : s.stop ≠ none) :
    ∃ t, Loop.Breaks (pass message) s t ∧ t.values = insertPairs s.values ps ∧ t.stop ≠ none := by
  induction ps generalizing s with
  | nil => exact ⟨s, .done (pass_nil h), rfl, hs⟩
  | cons p ps ih =>
    rw [pairsText, List.flatMap_cons] at h
    obtain ⟨t, hpass, hstop, hrest, hvalues⟩ := pass_pair (hps p List.mem_cons_self) h
    obtain ⟨u, hbreaks, huvalues, hu⟩ := ih (fun q hq => hps q (List.mem_cons_of_mem _ hq)) hrest hstop
    refine ⟨u, hbreaks.yield hpass, ?_, hu⟩
    rw [huvalues, hvalues]
    rfl

end Pairs

/-! ### The whole of `parse` and `create` -/

section Parse

variable {message name tail : GCString} {values : GCStringMap} {ps : List (GCString × GCString)}

theorem enter_eq (values : GCStringMap) (h : message = name ++ '?' :: tail) (hname : '?' ∉ name) :
    ∃ s, enter message values = .ok s ∧ s.stop ≠ none ∧ s.rest message = tail ∧
      s.values = values.insertIfNew nameString name := by
  have hdrop : message.drop 0 = name ++ '?' :: tail := h
  refine ⟨{ stop := some (0 + name.length), values := values.insertIfNew nameString name }, ?_,
    Option.some_ne_none _, drop_next hdrop, rfl⟩
  simp only [enter, findFirstOf_eq hdrop hname, substr_eq hdrop]
  rfl

/-- A name and readable pairs are read into the map in their order. -/
theorem parse_pairs (values : GCStringMap) (hname : '?' ∉ name) (hps : ∀ p ∈ ps, Readable p) :
    ∃ n, parse n (name ++ '?' :: pairsText ps) values =
      some (.ok (insertPairs (values.insertIfNew nameString name) ps)) := by
  obtain ⟨s, henter, hstop, hrest, hvalues⟩ := enter_eq values (rfl : _ = name ++ '?' :: pairsText ps) hname
  obtain ⟨t, ⟨n, hn⟩, ht, -⟩ := loop_pairs hps hrest hstop
  refine ⟨n, ?_⟩
  simp only [parse, henter, hn, Option.map_some, Except.map, ht, hvalues]

theorem create_eq (name : GCString) (values : GCStringMap) :
    create name values = name ++ '?' :: pairsText values.toList := by
  have hfold (ps : List (GCString × GCString)) (message : GCString) :
      ps.foldl (fun message p => message ++ (p.1 ++ ['='] ++ p.2 ++ ['&'])) message = message ++ pairsText ps := by
    induction ps generalizing message with
    | nil => simp [pairsText]
    | cons p ps ih =>
      rw [List.foldl_cons, ih]
      simp [pairsText, pairText]
  rw [create, Std.TreeMap.foldl_eq_foldl_toList, hfold]
  simp

/-- Of the pairs read into a map the first one for a key counts, after what the map held before. -/
theorem getElem?_insertPairs (values : GCStringMap) (ps : List (GCString × GCString)) (key : GCString) :
    (insertPairs values ps)[key]? = values[key]?.or (ps.lookup key) := by
  induction ps generalizing values with
  | nil => simp [insertPairs]
  | cons p ps ih =>
    rw [insertPairs, List.foldl_cons, ← insertPairs, ih, Std.TreeMap.getElem?_insertIfNew, List.lookup_cons]
    simp only [Std.LawfulEqCmp.compare_eq_iff_eq]
    by_cases hkey : p.1 = key
    · subst hkey
      cases hvalue : values[p.1]? with
      | none =>
        have hnew : p.1 ∉ values := by simpa using hvalue
        simp [hnew]
      | some value =>
        have hold : p.1 ∈ values := Std.TreeMap.mem_iff_isSome_getElem?.2 (by rw [hvalue]; rfl)
        simp [hold]
    · have hne : (key == p.1) = false := beq_false_of_ne (Ne.symm hkey)
      simp [hkey, hne]

theorem lookup_toList (values : GCStringMap) (key : GCString) : values.toList.lookup key = values[key]? := by
  apply Option.ext
  intro value
  rw [← Std.TreeMap.mem_toList_iff_getElem?_eq_some]
  constructor
  · intro h
    obtain ⟨l₁, l₂, hl, -⟩ := List.lookup_eq_some_iff.1 h
    simp [hl]
  · intro h
    obtain ⟨l₁, l₂, hl⟩ := List.append_of_mem h
    -- the keys of a map differ, so that no pair before has this one
    have hdistinct := Std.TreeMap.distinct_keys_toList (t := values)
    rw [hl, List.pairwise_append] at hdistinct
    refine List.lookup_eq_some_iff.2 ⟨l₁, l₂, hl, fun p hp => ?_⟩
    have hne := hdistinct.2.2 p hp (key, value) List.mem_cons_self
    rw [Std.LawfulEqCmp.compare_eq_iff_eq] at hne
    exact bne_iff_ne.2 (Ne.symm hne)

/-- What the text that `create` writes is read as: the name and the pairs, after what the map held before. -/
theorem parse_create_getElem? {name : GCString} {values : GCStringMap} (before : GCStringMap) (hname : '?' ∉ name)
    (hpairs : ∀ key value : GCString, values[key]? = some value → '=' ∉ key ∧ '&' ∉ value) :
    ∃ n result, parse n (create name values) before = some (.ok result) ∧
      ∀ key, result[key]? = before[key]?.or (if key = nameString then some name else values[key]?) := by
  have hps : ∀ p ∈ values.toList, Readable p := fun p hp =>
    hpairs p.1 p.2 (Std.TreeMap.mem_toList_iff_getElem?_eq_some.1 hp)
  obtain ⟨n, hn⟩ := parse_pairs before hname hps
  refine ⟨n, _, by rw [create_eq, hn], fun key => ?_⟩
  have hlookup := getElem?_insertPairs before ((nameString, name) :: values.toList) key
  rw [insertPairs, List.foldl_cons, ← insertPairs, List.lookup_cons, lookup_toList] at hlookup
  rw [hlookup]
  by_cases hkey : key = nameString
  · simp [hkey]
  · have hne : (key == nameString) = false := beq_false_of_ne hkey
    simp [hkey, hne]

/-- The round trip: the text that `create` writes is read back, whatever the characters of the pairs besides the two that
end a key and a value. -/
theorem parse_create (name : GCString) (values : GCStringMap) (hname : '?' ∉ name) (hnew : nameString ∉ values)
    (hpairs : ∀ key value : GCString, values[key]? = some value → '=' ∉ key ∧ '&' ∉ value) :
    ∃ n result, parse n (create name values) ∅ = some (.ok result) ∧
      ∀ key value, result[key]? = some value ↔ (key = nameString ∧ value = name) ∨ values[key]? = some value := by
  obtain ⟨n, result, hn, hresult⟩ := parse_create_getElem? ∅ hname hpairs
  refine ⟨n, result, hn, fun key value => ?_⟩
  rw [hresult, Std.TreeMap.getElem?_emptyc, Option.none_or]
  by_cases hkey : key = nameString
  · subst hkey
    simp [Std.TreeMap.getElem?_eq_none hnew, eq_comm]
  · simp [hkey]

/-- An empty key with an empty value, and a value that has the other two characters in it. -/
theorem parse_create_empty_key :
    ∃ n result, parse n (create ['n'] (.ofList [([], []), (['a'], ['=', '?'])])) ∅ = some (.ok result) ∧
      ∀ key value, result[key]? = some value ↔ (key = nameString ∧ value = ['n']) ∨
        (.ofList [([], []), (['a'], ['=', '?'])] : GCStringMap)[key]? = some value := by
  refine parse_create _ _ (by decide) (by decide) fun key value h => ?_
  have hlist : (.ofList [([], []), (['a'], ['=', '?'])] : GCStringMap).toList = [([], []), (['a'], ['=', '?'])] := rfl
  rw [← Std.TreeMap.mem_toList_iff_getElem?_eq_some, hlist] at h
  simp only [List.mem_cons, Prod.mk.injEq, List.not_mem_nil, or_false] at h
  obtain ⟨rfl, rfl⟩ | ⟨rfl, rfl⟩ := h
  · decide
  · decide

end Parse

end QueryStringParser

end Wifu
