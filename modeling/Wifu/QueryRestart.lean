import Wifu.QueryStringParser

/-!
# When `parse` goes forward (`QueryStringParser.cc`)

The position behind a character that was not found is `0`: a key without `=` and a value without `&` send the parser back
to the beginning of the message.  From there it reads the name and the pairs again as other pairs, and when the message
does not end in `&` it does so for ever (`parse_eq_none`).

It goes forward exactly when the text behind the `?` is the text of readable pairs, and that is so when the text is empty
or has one `&` behind its last `=`, at its end (`closed_iff`).
-/

namespace Wifu.QueryStringParser

variable {message name tail : GCString} {values : GCStringMap} {s t : Scan}

/-! ### Texts of readable pairs -/

/-- Empty, or with one `&` behind the last `=`, at the end. -/
def Closed (tail : GCString) : Prop := tail = [] ∨ ∃ u v, tail = u ++ '=' :: (v ++ ['&']) ∧ '=' ∉ v ∧ '&' ∉ v

/-- The text of readable pairs. -/
def Paired (tail : GCString) : Prop := ∃ ps, (∀ p ∈ ps, Readable p) ∧ tail = pairsText ps

theorem Paired.nil : Paired [] := ⟨[], by simp, rfl⟩

theorem Paired.cons {p : GCString × GCString} (hp : Readable p) (h : Paired tail) : Paired (pairText p ++ tail) := by
  obtain ⟨ps, hps, rfl⟩ := h
  exact ⟨p :: ps, List.forall_mem_cons.2 ⟨hp, hps⟩, rfl⟩

/-- What is behind a `&` in a closed text is closed. -/
theorem Closed.rest {u r : GCString} (h : Closed (u ++ '&' :: r)) : Closed r := by
  rcases List.eq_nil_or_concat r with rfl | ⟨r, c, rfl⟩
  · exact .inl rfl
  obtain h | ⟨k, v, h, hv, hv'⟩ := h
  · simp at h
  have hsuffix : '&' :: r.concat c <:+ k ++ '=' :: (v ++ ['&']) := ⟨u, h⟩
  rcases List.suffix_or_suffix_of_suffix hsuffix (List.suffix_append k _) with hs | hs
  · -- the `&` would stand in `v`
    rcases List.suffix_cons_iff.1 hs with heq | ⟨w, hw⟩
    · simp at heq
    · rw [List.concat_eq_append, ← List.cons_append, ← List.append_assoc] at hw
      exact absurd (by simp [← (List.append_inj' hw rfl).1]) hv'
  · rcases List.suffix_cons_iff.1 hs with heq | ⟨w, hw⟩
    · simp at heq
    · exact .inr ⟨w, v, hw.symm, hv, hv'⟩

/-- The last place where a character stands. -/
theorem exists_split_last {c : Char} {l : GCString} (h : c ∈ l) : ∃ u v, l = u ++ c :: v ∧ c ∉ v := by
  obtain ⟨u, v, hl, hu⟩ := List.eq_append_cons_of_mem (List.mem_reverse.2 h)
  refine ⟨v.reverse, u.reverse, ?_, by simpa using hu⟩
  rw [← List.reverse_reverse l, hl]
  simp

theorem Closed.cons {p : GCString × GCString} (hp : Readable p) (h : Closed tail) : Closed (pairText p ++ tail) := by
  obtain rfl | ⟨u, v, rfl, hv, hv'⟩ := h
  · obtain ⟨u, v, hsplit, hv⟩ := exists_split_last (c := '=') (l := '=' :: p.2) (by simp)
    refine .inr ⟨p.1 ++ u, v, ?_, hv, fun hmem => ?_⟩
    · rw [pairText, ← List.cons_append, hsplit]
      simp
    · have : '&' ∈ '=' :: p.2 := by rw [hsplit]; simp [hmem]
      exact hp.2 (by simpa using this)
  · exact .inr ⟨pairText p ++ u, v, by simp, hv, hv'⟩

theorem closed_iff : Closed tail ↔ Paired tail := by
  constructor
  · intro h
    induction hn : tail.length using Nat.strong_induction_on generalizing tail with
    | _ n ih =>
      subst hn
      obtain rfl | ⟨u, v, htail, -, -⟩ := id h
      · exact .nil
      -- the first pair ends at the first `&` behind the first `=`
      obtain ⟨key, r, hkey, hnokey⟩ := List.eq_append_cons_of_mem (show '=' ∈ tail by simp [htail])
      have hamp : '&' ∈ r := by
        have hlast : ['&'] <:+ tail := ⟨u ++ '=' :: v, by simp [htail]⟩
        have hs := List.suffix_of_suffix_length_le hlast ⟨key, hkey.symm⟩ (by simp)
        rcases List.suffix_cons_iff.1 hs with heq | hs
        · simp at heq
        · exact hs.subset List.mem_cons_self
      obtain ⟨value, r, rfl, hnovalue⟩ := List.eq_append_cons_of_mem hamp
      have hpair : tail = pairText (key, value) ++ r := by simp [hkey, pairText]
      rw [hpair]
      refine .cons ⟨hnokey, hnovalue⟩ (ih r.length ?_ ?_ rfl)
      · rw [hkey]
        simp
        omega
      · rw [hkey, ← List.cons_append, ← List.append_assoc] at h
        exact h.rest
  · rintro ⟨ps, hps, rfl⟩
    induction ps with
    | nil => exact .inl rfl
    | cons p ps ih =>
      exact .cons (hps p List.mem_cons_self) (ih fun q hq => hps q (List.mem_cons_of_mem _ hq))

/-! ### Going forward -/

/-- The values that `begin` takes in one pass. -/
def begins (message : GCString) (s : Scan) : List Nat :=
  let start := next s.stop
  if message.length ≤ start then [start] else [start, next (findFirstOf message '=' start)]

theorem start_mem_begins (message : GCString) (s : Scan) : next s.stop ∈ begins message s := by
  unfold begins
  by_cases h : message.length ≤ next s.stop
  · simp [h]
  · simp [h]

theorem value_mem_begins (h : next s.stop < message.length) :
    next (findFirstOf message '=' (next s.stop)) ∈ begins message s := by
  simp [begins, Nat.not_le.2 h]

/-- `parse` throws its exception, or it returns and at no time goes back to the beginning of the message. -/
def Forward (message : GCString) (values : GCStringMap) : Prop :=
  (∃ text n, parse n message values = some (.error (.wiFuException text))) ∨
    ((∃ n result, parse n message values = some (.ok result)) ∧
      ∀ s t, enter message values = .ok s → Loop.Reaches (pass message) s t → 0 ∉ begins message t)

theorem next_findFirstOf_le (message : GCString) (c : Char) (pos : Nat) :
    next (findFirstOf message c pos) ≤ message.length := by
  by_cases hc : c ∈ message.drop pos
  · obtain ⟨u, v, h, -, hfind⟩ := exists_split hc
    have := congrArg List.length h
    simp only [List.length_drop, List.length_append, List.length_cons] at this
    rw [hfind, next]
    omega
  · rw [findFirstOf_eq_none.2 hc]
    exact Nat.zero_le _

theorem substr_ok {start : Nat} (h : start ≤ message.length) (stop : Option Nat) :
    ∃ u, substr message start stop = .ok u := by
  unfold substr
  rw [if_neg (by omega)]
  cases stop with
  | none => exact ⟨_, rfl⟩
  | some stop => exact ⟨_, rfl⟩

/-- A pass that does not break goes on to the search for `&` behind the one for `=`; `substr` never throws. -/
theorem pass_ok (h : next s.stop < message.length) : ∃ t, pass message s = .ok (.yield t) ∧
    t.stop = findFirstOf message '&' (next (findFirstOf message '=' (next s.stop))) := by
  obtain ⟨key, hkey⟩ := substr_ok h.le (findFirstOf message '=' (next s.stop))
  have hle := next_findFirstOf_le message '=' (next s.stop)
  obtain ⟨value, hvalue⟩ := substr_ok hle (findFirstOf message '&' (next (findFirstOf message '=' (next s.stop))))
  refine ⟨⟨_, s.values.insertIfNew key value⟩, ?_, rfl⟩
  rw [pass, if_neg (by omega)]
  simp only [hkey, hvalue]
  rfl

/-- The state of a parser that has only readable pairs before it. -/
def Tidy (message : GCString) (s : Scan) : Prop := s.stop ≠ none ∧ Paired (s.rest message)

theorem next_ne_zero {stop : Option Nat} (h : stop ≠ none) : next stop ≠ 0 := by
  cases stop with
  | none => exact absurd rfl h
  | some stop => exact Nat.succ_ne_zero stop

theorem Tidy.pass (h : Tidy message s) (hpass : pass message s = .ok (.yield t)) : Tidy message t := by
  obtain ⟨-, ps, hps, hrest⟩ := h
  cases ps with
  | nil =>
    rw [pass_nil hrest] at hpass
    cases hpass
  | cons p ps =>
    rw [pairsText, List.flatMap_cons] at hrest
    obtain ⟨u, hu, hstop, hurest, -⟩ := pass_pair (hps p List.mem_cons_self) hrest
    rw [hu] at hpass
    cases hpass
    exact ⟨hstop, ps, fun q hq => hps q (List.mem_cons_of_mem _ hq), hurest⟩

theorem Tidy.begins (h : Tidy message s) : 0 ∉ begins message s := by
  obtain ⟨hstop, ps, hps, hrest⟩ := h
  have hstart := next_ne_zero hstop
  cases ps with
  | nil =>
    have : message.length ≤ next s.stop := List.drop_eq_nil_iff.1 hrest
    simp [QueryStringParser.begins, this, Ne.symm hstart]
  | cons p ps =>
    have hkey : message.drop (next s.stop) = p.1 ++ '=' :: (p.2 ++ '&' :: pairsText ps) := by
      rw [← Scan.rest, hrest]
      simp [pairsText, pairText]
    have hvalue : next (findFirstOf message '=' (next s.stop)) ≠ 0 := by
      rw [findFirstOf_eq hkey (hps p List.mem_cons_self).1]
      exact next_ne_zero (Option.some_ne_none _)
    have hlt : ¬message.length ≤ next s.stop := by
      rw [← List.drop_eq_nil_iff, hkey]
      simp
    simp [QueryStringParser.begins, hlt, Ne.symm hstart, Ne.symm hvalue]

/-- A parser that never goes back to the beginning has readable pairs before it. -/
theorem paired_of_begins (h : ∀ t, Loop.Reaches (pass message) s t → 0 ∉ begins message t) :
    Paired (s.rest message) := by
  induction hn : (s.rest message).length using Nat.strong_induction_on generalizing s with
  | _ n ih =>
    subst hn
    by_cases hnil : s.rest message = []
    · rw [hnil]
      exact .nil
    have hlt : next s.stop < message.length := by
      rw [Scan.rest, List.drop_eq_nil_iff] at hnil
      omega
    have heq : '=' ∈ message.drop (next s.stop) := by
      by_contra hno
      have hhere := value_mem_begins hlt
      rw [findFirstOf_eq_none.2 hno] at hhere
      exact h s .refl hhere
    obtain ⟨key, r, hkey, hnokey, hfind⟩ := exists_split heq
    have hr := drop_next hkey
    obtain ⟨t, hpass, hstop⟩ := pass_ok hlt
    rw [hfind] at hstop
    have hamp : '&' ∈ r := by
      by_contra hno
      rw [← hr] at hno
      rw [findFirstOf_eq_none.2 hno] at hstop
      have hthere := start_mem_begins message t
      rw [hstop] at hthere
      exact h t (.single hpass) hthere
    obtain ⟨value, r, rfl, hnovalue⟩ := List.eq_append_cons_of_mem hamp
    have hrest : s.rest message = pairText (key, value) ++ r := by
      rw [Scan.rest, hkey]
      simp [pairText]
    obtain ⟨u, hu, -, hurest, -⟩ := pass_pair ⟨hnokey, hnovalue⟩ hrest
    rw [hrest]
    refine .cons ⟨hnokey, hnovalue⟩ ?_
    rw [← hurest]
    refine ih _ ?_ (fun v hv => h v (hv.yield hu)) rfl
    rw [hurest, hrest]
    simp [pairText]
    omega

/-! ### Every message -/

theorem pass_ne_error {e : ParseException} : pass message s ≠ .error e := by
  intro h
  by_cases hlt : next s.stop < message.length
  · obtain ⟨t, ht, -⟩ := pass_ok hlt
    rw [ht] at h
    cases h
  · rw [pass, if_pos (by omega)] at h
    cases h

theorem enter_eq_error (h : '?' ∉ message) (values : GCStringMap) :
    enter message values = .error (.wiFuException "Malformed query") := by
  have hfind : findFirstOf message '?' 0 = none := findFirstOf_eq_none.2 h
  simp only [enter, hfind]

/-- The exception of its own is all that `parse` throws, and it does so for the messages without a `?`. -/
theorem parse_eq_error {n : Nat} {e : ParseException} : parse n message values = some (.error e) ↔
    '?' ∉ message ∧ e = .wiFuException "Malformed query" := by
  by_cases hq : '?' ∈ message
  · obtain ⟨name, tail, hmessage, hname⟩ := List.eq_append_cons_of_mem hq
    obtain ⟨s, henter, -⟩ := enter_eq values hmessage hname
    refine iff_of_false (fun h => ?_) fun h => h.1 hq
    simp only [parse, henter, Option.map_eq_some_iff] at h
    obtain ⟨r, hr, hmap⟩ := h
    cases r with
    | ok t => cases hmap
    | error e =>
      obtain ⟨t, -, ht⟩ := Loop.exists_throw hr
      exact pass_ne_error ht
  · simp only [parse, enter_eq_error hq, Option.some.injEq, Except.error.injEq, hq, not_false_iff, true_and, eq_comm]

/-- Exactly the messages whose text behind the first `?` is closed are parsed forward. -/
theorem forward_iff (message : GCString) (values : GCStringMap) : Forward message values ↔
    ∀ name tail, message = name ++ '?' :: tail → '?' ∉ name → Closed tail := by
  constructor
  · rintro (⟨text, n, hn⟩ | ⟨-, hforward⟩) name tail hmessage hname
    · exact absurd (by simp [hmessage]) (parse_eq_error.1 hn).1
    · obtain ⟨s, henter, -, hrest, -⟩ := enter_eq values hmessage hname
      have hpaired := paired_of_begins fun t ht => hforward s t henter ht
      rw [hrest] at hpaired
      exact closed_iff.2 hpaired
  · intro h
    by_cases hq : '?' ∈ message
    · obtain ⟨name, tail, hmessage, hname⟩ := List.eq_append_cons_of_mem hq
      obtain ⟨ps, hps, htail⟩ := closed_iff.1 (h name tail hmessage hname)
      subst hmessage htail
      obtain ⟨n, hn⟩ := parse_pairs values hname hps
      refine .inr ⟨⟨n, _, hn⟩, fun s t hs ht => ?_⟩
      obtain ⟨u, henter, hstop, hrest, -⟩ := enter_eq values (rfl : _ = name ++ '?' :: pairsText ps) hname
      rw [henter] at hs
      cases hs
      exact (ht.invariant (Tidy _) ⟨hstop, ps, hps, hrest⟩ fun _ _ => Tidy.pass).begins
    · exact .inl ⟨_, 0, parse_eq_error.2 ⟨hq, rfl⟩⟩

/-! ### Messages that are parsed for ever -/

/-- A search for `&` does not stop at the last character when that is another one. -/
theorem next_findFirstOf_lt {c : Char} (hc : c ≠ '&') (pos : Nat) :
    next (findFirstOf (message ++ [c]) '&' pos) < (message ++ [c]).length := by
  by_cases hamp : '&' ∈ (message ++ [c]).drop pos
  · obtain ⟨u, v, h, -, hfind⟩ := exists_split hamp
    rw [hfind, ← Nat.not_le, ← List.drop_eq_nil_iff, drop_next h]
    rintro rfl
    obtain ⟨w, hw⟩ :=
      List.suffix_of_suffix_length_le (List.suffix_append message [c]) (List.drop_suffix pos _) (by simp [h])
    rw [h] at hw
    exact hc (List.cons.inj (List.append_inj' hw rfl).2).1
  · rw [findFirstOf_eq_none.2 hamp]
    simp [next]

/-- A message with text behind its first `?` whose last character is not `&` is read again and again. -/
theorem parse_eq_none {c : Char} (hname : '?' ∉ name) (hc : c ≠ '&') (n : Nat) (values : GCStringMap) :
    parse n (name ++ '?' :: (tail ++ [c])) values = none := by
  obtain ⟨s, henter, -, hrest, -⟩ := enter_eq values (rfl : _ = name ++ '?' :: (tail ++ [c])) hname
  have hmessage : name ++ '?' :: (tail ++ [c]) = (name ++ '?' :: tail) ++ [c] := by simp
  have hstart : next s.stop < (name ++ '?' :: (tail ++ [c])).length := by
    rw [← Nat.not_le, ← List.drop_eq_nil_iff, ← Scan.rest, hrest]
    simp
  simp only [parse, henter, Option.map_eq_none_iff]
  refine Loop.run_eq_none (fun s => next s.stop < (name ++ '?' :: (tail ++ [c])).length) hstart (fun s hs => ?_) n
  obtain ⟨t, hpass, hstop⟩ := pass_ok hs
  refine ⟨t, hpass, ?_⟩
  rw [hstop, hmessage]
  exact next_findFirstOf_lt hc _

/-- A value at the end of the message without its `&` is enough. -/
theorem not_forward_open_value : ¬Forward "name?a=b".toList ∅ ∧ ∀ n, parse n "name?a=b".toList ∅ = none := by
  have hnone (n : Nat) : parse n "name?a=b".toList ∅ = none := by
    show parse n ("name".toList ++ '?' :: ("a=".toList ++ ['b'])) ∅ = none
    exact parse_eq_none (by decide) (by decide) n ∅
  refine ⟨?_, hnone⟩
  rintro (⟨text, n, hn⟩ | ⟨⟨n, result, hn⟩, -⟩)
  · rw [hnone] at hn
    cases hn
  · rw [hnone] at hn
    cases hn

end Wifu.QueryStringParser
