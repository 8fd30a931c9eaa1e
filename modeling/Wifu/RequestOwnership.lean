import Wifu.BackEndTranslator
import Wifu.Tahoe

/-!
# Who holds a pooled event

A request holds its pooled event until it is answered.  As long as each response that the translator takes answers the
latest request of its socket, and that for the first time, it releases the event of that request, and the events of
the requests that wait for an answer stay out of the pools.
-/

namespace Wifu

namespace BackEndTranslator

/-- Request `n` is `q` and has not been answered. -/
def Unanswered (b : BackEndTranslator) (n : Nat) (q : Request) : Prop := b.requests[n]? = some q ∧ n ∉ b.answered

/-- The event belongs to a request that has not been answered. -/
def Holds (b : BackEndTranslator) (e : EventPointer) : Prop := ∃ n q, b.Unanswered n q ∧ q.event = e

/-- Request `n` is the last one received on the socket. -/
def Latest (b : BackEndTranslator) (n : Nat) (s : SocketId) : Prop :=
  b.requests[n]?.map Request.socket = some s ∧ ∀ q ∈ b.requests.drop (n + 1), q.socket ≠ s

instance (b : BackEndTranslator) (n : Nat) (s : SocketId) : Decidable (b.Latest n s) :=
  inferInstanceAs (Decidable (_ ∧ _))

/-- The response answers, for the first time, the latest request of its socket. -/
def Proper (b : BackEndTranslator) (r : Response) : Prop :=
  match r.answers with
  | none => False
  | some n => n ∉ b.answered ∧ b.Latest n r.socket

instance (b : BackEndTranslator) (r : Response) : Decidable (b.Proper r) := by
  unfold Proper
  split
  · exact inferInstanceAs (Decidable False)
  · exact inferInstanceAs (Decidable (_ ∧ _))

/-- Each response that the translator takes is proper. -/
def answersLatest (b : BackEndTranslator) (i : Input) : Prop := i = .libraryResponse → ∀ r ∈ b.queue.head?, b.Proper r

instance (b : BackEndTranslator) (i : Input) : Decidable (b.answersLatest i) :=
  inferInstanceAs (Decidable (i = .libraryResponse → ∀ r ∈ b.queue.head?, b.Proper r))

/-- What holds as long as the responses are proper. -/
structure Sound (b : BackEndTranslator) : Prop where
  pools : ∀ k, (b.pools k).Owns fun x => b.Holds ⟨k, x⟩
  apart : ∀ n q, b.Unanswered n q → ∀ m q', n < m → b.requests[m]? = some q' → q'.event ≠ q.event
  typed : ∀ q ∈ b.requests, (b.events q.event).message.messageType.kind = some q.event.kind
  entry : ∀ n s q, b.Latest n s → b.requests[n]? = some q → b.eventMap s = some q.event
  noEntry : ∀ s, (∀ q ∈ b.requests, q.socket ≠ s) → b.eventMap s = none
  responses : b.responsePool.Owns fun x => x ∈ b.queue.map Response.object
  distinct : (b.queue.map Response.object).Nodup

section

variable {b b' : BackEndTranslator} {n : Nat} {s : SocketId} {q : Request}

theorem Latest.get (h : b.Latest n s) : ∃ q, b.requests[n]? = some q ∧ q.socket = s :=
  Option.map_eq_some_iff.1 h.1

/-- The socket of a request has a latest request, and that is no earlier one. -/
theorem exists_latest (hq : b.requests[n]? = some q) : ∃ m q', n ≤ m ∧ b.requests[m]? = some q' ∧ b.Latest m q.socket := by
  -- the last request from `n` on with the socket
  have hstep : ∀ k, ∀ n q, b.requests[n]? = some q → b.requests.length ≤ n + k →
      ∃ m q', n ≤ m ∧ b.requests[m]? = some q' ∧ b.Latest m q.socket := by
    intro k
    induction k with
    | zero =>
      intro n q hq hlen
      have := (List.getElem?_eq_some_iff.1 hq).1
      omega
    | succ k ih =>
      intro n q hq hlen
      by_cases hlast : ∀ q' ∈ b.requests.drop (n + 1), q'.socket ≠ q.socket
      · exact ⟨n, q, Nat.le_refl n, hq, by rw [hq]; rfl, hlast⟩
      · simp only [not_forall] at hlast
        obtain ⟨q', hmem, hsocket⟩ := hlast
        have hsocket : q'.socket = q.socket := not_not.1 hsocket
        obtain ⟨j, hj⟩ := List.getElem?_of_mem hmem
        rw [List.getElem?_drop] at hj
        obtain ⟨m, r, hm, hr, hlatest⟩ := ih (n + 1 + j) q' hj (by omega)
        exact ⟨m, r, by omega, hr, hsocket ▸ hlatest⟩
  exact hstep b.requests.length n q hq (by omega)

theorem Latest.not_lt (h : b.Latest n s) {m : Nat} (hm : b.requests[m]? = some q) (hs : q.socket = s) : ¬n < m := by
  intro hlt
  obtain ⟨k, rfl⟩ := Nat.exists_eq_add_of_lt hlt
  refine h.2 q ?_ hs
  rw [List.mem_iff_getElem?]
  refine ⟨k, ?_⟩
  rw [List.getElem?_drop, ← hm]
  congr 1
  omega

theorem Latest.unique {m : Nat} (h : b.Latest n s) (h' : b.Latest m s) : n = m := by
  obtain ⟨q, hq, hqs⟩ := h.get
  obtain ⟨q', hq', hqs'⟩ := h'.get
  have := h.not_lt hq' hqs'
  have := h'.not_lt hq hqs
  omega

/-! ### Requests -/

section

variable {kind : EventKind} {m : FrontEndMessage}

theorem dispatchEvent_requests (b : BackEndTranslator) (kind : EventKind) (s : SocketId) (m : FrontEndMessage) :
    (b.dispatchEvent kind s m).requests = b.requests ++ [⟨s, ⟨kind, (b.pools kind).get.1⟩, m⟩] := rfl

theorem getElem?_concat {α : Type} {l : List α} {x y : α} (h : (l ++ [x])[n]? = some y) :
    l[n]? = some y ∨ n = l.length ∧ y = x := by
  rcases Nat.lt_trichotomy n l.length with hlt | rfl | hgt
  · rw [List.getElem?_append_left hlt] at h
    exact .inl h
  · rw [List.getElem?_concat_length] at h
    exact .inr ⟨rfl, (Option.some.inj h).symm⟩
  · rw [List.getElem?_eq_none (by simp; omega)] at h
    cases h

/-- The event of a new request was held by nobody. -/
theorem Sound.fresh (hs : b.Sound) (kind : EventKind) : ¬b.Holds ⟨kind, (b.pools kind).get.1⟩ := (hs.pools kind).get.1

theorem Sound.dispatchEvent (hs : b.Sound) (hkind : m.messageType.kind = some kind) :
    (b.dispatchEvent kind s m).Sound := by
  have hreq := dispatchEvent_requests b kind s m
  generalize he : (⟨kind, (b.pools kind).get.1⟩ : EventPointer) = e at hreq
  have hfresh : ¬b.Holds e := he ▸ hs.fresh kind
  have hunanswered {n : Nat} {q : Request} (h : (b.dispatchEvent kind s m).Unanswered n q) :
      b.Unanswered n q ∨ n = b.requests.length ∧ q = ⟨s, e, m⟩ := by
    obtain ⟨hq, hn⟩ := h
    rw [hreq] at hq
    rcases getElem?_concat hq with hq | hq
    · exact .inl ⟨hq, hn⟩
    · exact .inr hq
  have hholds {e' : EventPointer} (h : (b.dispatchEvent kind s m).Holds e') : e' = e ∨ b.Holds e' := by
    obtain ⟨n, q, hq, rfl⟩ := h
    rcases hunanswered hq with hq | ⟨-, rfl⟩
    · exact .inr ⟨n, q, hq, rfl⟩
    · exact .inl rfl
  have hlatest {n : Nat} {t : SocketId} (h : (b.dispatchEvent kind s m).Latest n t) :
      n = b.requests.length ∧ t = s ∨ t ≠ s ∧ b.Latest n t := by
    obtain ⟨hn, hlast⟩ := h
    rw [hreq] at hn hlast
    obtain ⟨q, hq, hqs⟩ := Option.map_eq_some_iff.1 hn
    rcases getElem?_concat hq with hq | ⟨hn, rfl⟩
    · have hlt : n < b.requests.length := (List.getElem?_eq_some_iff.1 hq).1
      rw [List.drop_append_of_le_length (by omega)] at hlast
      refine .inr ⟨(hlast ⟨s, e, m⟩ (by simp)).symm, ?_, fun q' hq' => hlast q' (List.mem_append_left _ hq')⟩
      rw [hq]
      exact congrArg some hqs
    · exact .inl ⟨hn, hqs.symm⟩
  refine ⟨fun k => ?_, ?_, ?_, ?_, ?_, hs.responses, hs.distinct⟩
  · show (Function.update b.pools kind (b.pools kind).get.2 k).Owns _
    by_cases hk : k = kind
    · subst hk
      rw [Function.update_self]
      refine (hs.pools k).get.2.congr fun x hx => ?_
      rcases hholds hx with hx | hx
      · rw [← he] at hx
        exact .inl (congrArg EventPointer.object hx)
      · exact .inr hx
    · rw [Function.update_of_ne hk]
      refine (hs.pools k).congr fun x hx => ?_
      rcases hholds hx with hx | hx
      · rw [← he] at hx
        exact absurd (congrArg EventPointer.kind hx) hk
      · exact hx
  · intro n q hq m' q' hlt hq'
    rw [hreq] at hq'
    have hn : n < b.requests.length := by
      have hm' := (List.getElem?_eq_some_iff.1 hq').1
      rw [List.length_append, List.length_singleton] at hm'
      omega
    rcases hunanswered hq with hq | ⟨rfl, -⟩
    · rcases getElem?_concat hq' with hq' | ⟨-, rfl⟩
      · exact hs.apart n q hq m' q' hlt hq'
      · exact fun heq => hfresh ⟨n, q, hq, heq.symm⟩
    · exact absurd hn (Nat.lt_irrefl _)
  · intro q hq
    rw [hreq] at hq
    show (Function.update b.events ⟨kind, (b.pools kind).get.1⟩ _ q.event).message.messageType.kind = _
    rw [he]
    by_cases hqe : q.event = e
    · rw [hqe, Function.update_self, ← he]
      exact hkind
    · rw [Function.update_of_ne hqe]
      rcases List.mem_append.1 hq with hq | hq
      · exact hs.typed q hq
      · rw [List.mem_singleton] at hq
        subst hq
        exact absurd rfl hqe
  · intro n t q hn hq
    rw [hreq] at hq
    show Function.update b.eventMap s (some ⟨kind, (b.pools kind).get.1⟩) t = _
    rw [he]
    rcases hlatest hn with ⟨rfl, rfl⟩ | ⟨hne, hn⟩
    · rw [Function.update_self]
      rcases getElem?_concat hq with hq | ⟨-, rfl⟩
      · exact absurd (List.getElem?_eq_some_iff.1 hq).1 (Nat.lt_irrefl _)
      · rfl
    · rw [Function.update_of_ne hne]
      rcases getElem?_concat hq with hq | ⟨rfl, -⟩
      · exact hs.entry n t q hn hq
      · obtain ⟨q', hq', -⟩ := hn.get
        exact absurd (List.getElem?_eq_some_iff.1 hq').1 (Nat.lt_irrefl _)
  · intro t ht
    rw [hreq] at ht
    have hne : t ≠ s := fun h => ht ⟨s, e, m⟩ (by simp) h.symm
    show Function.update b.eventMap s _ t = none
    rw [Function.update_of_ne hne]
    exact hs.noEntry t fun q hq => ht q (List.mem_append_left _ hq)

end

/-! ### Responses -/

theorem Sound.respond (hs : b.Sound) (s : SocketId) (answers : Option Nat) : (b.respond s answers).Sound := by
  obtain ⟨hfresh, howns⟩ := hs.responses.get
  have hqueue : (b.respond s answers).queue.map Response.object =
      b.queue.map Response.object ++ [b.responsePool.get.1] := by
    show (b.queue ++ [_]).map Response.object = _
    rw [List.map_append, List.map_singleton]
    rfl
  refine ⟨hs.pools, hs.apart, hs.typed, hs.entry, hs.noEntry, ?_, ?_⟩
  · refine howns.congr fun x hx => ?_
    rw [hqueue, List.mem_append, List.mem_singleton] at hx
    exact hx.symm
  · rw [hqueue]
    refine List.Nodup.append hs.distinct (List.nodup_singleton _) ?_
    intro x hx hmem
    rw [List.mem_singleton] at hmem
    exact hfresh (hmem ▸ hx)

theorem Sound.refuseSocket (hs : b.Sound) : b.refuseSocket.Sound := by
  obtain ⟨hfresh, howns⟩ := hs.responses.get
  refine ⟨hs.pools, hs.apart, hs.typed, hs.entry, hs.noEntry, ?_, hs.distinct⟩
  refine (howns.release (.inl rfl)).congr fun x hx => ⟨.inr hx, ?_⟩
  rintro rfl
  exact hfresh hx

/-- The translator after a response that finds the entry `e`. -/
def afterResponse (b : BackEndTranslator) (r : Response) (rs : List Response) (e : EventPointer) : BackEndTranslator :=
  { b with
    pools := Function.update b.pools e.kind ((b.pools e.kind).release e.object)
    responsePool := b.responsePool.release r.object
    queue := rs
    answered := r.answers.toList ++ b.answered }

variable {r : Response} {rs : List Response}

/-- A response releases the event of the latest request of its socket, or finds no entry. -/
theorem Sound.libraryResponse_cases (hs : b.Sound) (hqueue : b.queue = r :: rs) :
    ((∀ q ∈ b.requests, q.socket ≠ r.socket) ∧ b.libraryResponse = .error .noEntry) ∨
      ∃ n q, b.Latest n r.socket ∧ b.requests[n]? = some q ∧ b.libraryResponse = .ok (b.afterResponse r rs q.event) := by
  by_cases hnone : ∀ q ∈ b.requests, q.socket ≠ r.socket
  · refine .inl ⟨hnone, ?_⟩
    unfold libraryResponse
    simp only [hqueue, hs.noEntry r.socket hnone]
  · simp only [not_forall, not_not] at hnone
    obtain ⟨q, hmem, hsocket⟩ := hnone
    obtain ⟨k, hk⟩ := List.getElem?_of_mem hmem
    obtain ⟨n, q', -, hq', hlatest⟩ := exists_latest hk
    rw [hsocket] at hlatest
    refine .inr ⟨n, q', hlatest, hq', ?_⟩
    unfold libraryResponse
    simp only [hqueue, hs.entry n r.socket q' hlatest hq', hs.typed q' (List.mem_of_getElem? hq')]
    rfl

/-- The response `r` answers a request of its socket for the first time, and releases its event. -/
def Releases (b : BackEndTranslator) (r : Response) (b' : BackEndTranslator) : Prop :=
  ∃ n q, r.answers = some n ∧ b.Unanswered n q ∧ q.socket = r.socket ∧
    b'.pools = Function.update b.pools q.event.kind ((b.pools q.event.kind).release q.event.object)

theorem Proper.answers (h : b.Proper r) : ∃ n, r.answers = some n ∧ n ∉ b.answered ∧ b.Latest n r.socket := by
  unfold Proper at h
  split at h
  · exact h.elim
  · rename_i n hn
    exact ⟨n, hn, h⟩

/-- A proper response releases the event of the request it answers. -/
theorem Sound.proper_releases (hs : b.Sound) (hqueue : b.queue = r :: rs) (hp : b.Proper r) :
    ∃ n q, r.answers = some n ∧ b.Unanswered n q ∧ q.socket = r.socket ∧
      b.libraryResponse = .ok (b.afterResponse r rs q.event) := by
  obtain ⟨n, hn, hnew, hlatest⟩ := hp.answers
  obtain ⟨q, hq, hqs⟩ := hlatest.get
  rcases hs.libraryResponse_cases hqueue with ⟨hnone, -⟩ | ⟨m, q', hlatest', hq', hok⟩
  · exact absurd hqs (hnone q (List.mem_of_getElem? hq))
  · obtain rfl := hlatest.unique hlatest'
    rw [hq] at hq'
    cases hq'
    exact ⟨n, q, hn, ⟨hq, hnew⟩, hqs, hok⟩

/-- A pool's list tells which object was released last. -/
theorem release_inj {pools : EventKind → ObjectPool} {e e' : EventPointer}
    (h : Function.update pools e.kind ((pools e.kind).release e.object) =
      Function.update pools e'.kind ((pools e'.kind).release e'.object)) : e = e' := by
  obtain ⟨k, x⟩ := e
  obtain ⟨k', x'⟩ := e'
  have hat := congrArg (fun p => (p k).objectList) h
  simp only [Function.update_self] at hat
  by_cases hk : k = k'
  · subst hk
    rw [Function.update_self] at hat
    have hlast := List.append_cancel_left hat
    cases hlast
    rfl
  · rw [Function.update_of_ne hk] at hat
    have hlen := congrArg List.length hat
    unfold ObjectPool.release at hlen
    simp at hlen

/-- A response releases the event of the request it answers exactly when it is proper. -/
theorem Sound.proper_iff (hs : b.Sound) (hqueue : b.queue = r :: rs) :
    b.Proper r ↔ ∃ b', b.libraryResponse = .ok b' ∧ b.Releases r b' := by
  constructor
  · intro hp
    obtain ⟨n, q, hn, hq, hqs, hok⟩ := hs.proper_releases hqueue hp
    exact ⟨_, hok, n, q, hn, hq, hqs, rfl⟩
  · rintro ⟨b', hok, n, q, hn, hq, hqs, hpools⟩
    rcases hs.libraryResponse_cases hqueue with ⟨-, herror⟩ | ⟨m, q', hlatest, hq', hok'⟩
    · rw [herror] at hok
      cases hok
    · rw [hok'] at hok
      cases hok
      have hevent : q'.event = q.event := release_inj hpools
      have hle : ¬m < n := hlatest.not_lt hq.1 hqs
      have hge : ¬n < m := fun hlt => hs.apart n q hq m q' hlt hq' hevent
      obtain rfl : n = m := by omega
      unfold Proper
      rw [hn]
      exact ⟨hq.2, hlatest⟩

theorem Sound.afterResponse (hs : b.Sound) (hqueue : b.queue = r :: rs) (hn : r.answers = some n)
    (hq : b.Unanswered n q) : (b.afterResponse r rs q.event).Sound := by
  have hanswered : (b.afterResponse r rs q.event).answered = n :: b.answered := by
    unfold BackEndTranslator.afterResponse
    rw [hn]
    rfl
  have hunanswered {m : Nat} {q' : Request} (h : (b.afterResponse r rs q.event).Unanswered m q') :
      m ≠ n ∧ b.Unanswered m q' := by
    obtain ⟨hq', hm⟩ := h
    rw [hanswered, List.mem_cons, not_or] at hm
    exact ⟨hm.1, hq', hm.2⟩
  have hdistinct := hs.distinct
  have hresponses := hs.responses
  rw [hqueue] at hdistinct hresponses
  refine ⟨fun k => ?_, fun m q' hq' => hs.apart m q' (hunanswered hq').2, hs.typed, hs.entry, hs.noEntry, ?_,
    (List.nodup_cons.1 hdistinct).2⟩
  · show (Function.update b.pools q.event.kind ((b.pools q.event.kind).release q.event.object) k).Owns _
    have hother {x : Nat} (hx : (b.afterResponse r rs q.event).Holds ⟨k, x⟩) :
        b.Holds ⟨k, x⟩ ∧ (⟨k, x⟩ : EventPointer) ≠ q.event := by
      obtain ⟨m, q', hq', he⟩ := hx
      obtain ⟨hne, hq'⟩ := hunanswered hq'
      refine ⟨⟨m, q', hq', he⟩, fun heq => ?_⟩
      rcases Nat.lt_or_gt_of_ne hne with hlt | hgt
      · exact hs.apart m q' hq' n q hlt hq.1 (heq.symm.trans he.symm)
      · exact hs.apart n q hq m q' hgt hq'.1 (he.trans heq)
    by_cases hk : k = q.event.kind
    · subst hk
      rw [Function.update_self]
      refine ((hs.pools _).release ⟨n, q, hq, rfl⟩).congr fun x hx => ⟨(hother hx).1, ?_⟩
      rintro rfl
      exact (hother hx).2 rfl
    · rw [Function.update_of_ne hk]
      exact (hs.pools k).congr fun x hx => (hother hx).1
  · refine (hresponses.release (by simp)).congr fun x hx => ⟨List.mem_cons_of_mem _ hx, ?_⟩
    rintro rfl
    exact (List.nodup_cons.1 hdistinct).1 hx

/-! ### Runs -/

theorem Sound.init (supported : List Nat) : Sound { supported := supported } := by
  have hnone (k : Nat) : ([] : List Request)[k]? = none := rfl
  refine ⟨fun k => ?_, ?_, ?_, ?_, fun _ _ => rfl, ?_, List.nodup_nil⟩
  · refine ObjectPool.Owns.init.congr fun x hx => ?_
    obtain ⟨n, q, hq, -⟩ := hx
    cases hq.1
  · intro n q hq
    cases hq.1
  · intro q hq
    cases hq
  · intro n s q _ hq
    cases hq
  · exact ObjectPool.Owns.init.congr fun x hx => by cases hx

theorem Sound.receive (hs : b.Sound) {m : FrontEndMessage} (h : b.receive m = .ok b') : b'.Sound := by
  unfold BackEndTranslator.receive at h
  split at h
  · cases h
  · rename_i hkind
    split at h
    · cases h
      have hadd : ({ b with sockets := m.fd :: b.sockets } : BackEndTranslator).Sound :=
        ⟨hs.pools, hs.apart, hs.typed, hs.entry, hs.noEntry, hs.responses, hs.distinct⟩
      exact hadd.dispatchEvent hkind
    · cases h
      exact hs.refuseSocket
  · rename_i hkind
    split at h
    · cases h
      exact hs.dispatchEvent hkind
    · cases h

theorem Sound.step (hs : b.Sound) {i : Input} (hen : machine.enabled i b) (hc : b.answersLatest i)
    (h : step i b = .ok b') : b'.Sound := by
  cases i with
  | message m => exact hs.receive h
  | respond s answers =>
    cases h
    exact hs.respond s answers
  | libraryResponse =>
    obtain ⟨r, rs, hqueue⟩ := List.exists_cons_of_ne_nil (hen rfl)
    have hp : b.Proper r := hc rfl r (by rw [hqueue]; rfl)
    obtain ⟨n, q, hn, hq, -, hok⟩ := hs.proper_releases hqueue hp
    have h : b.libraryResponse = .ok b' := h
    rw [hok] at h
    cases h
    exact hs.afterResponse hqueue hn hq
  | addSocket s =>
    cases h
    exact ⟨hs.pools, hs.apart, hs.typed, hs.entry, hs.noEntry, hs.responses, hs.distinct⟩
  | removeSocket s =>
    cases h
    exact ⟨hs.pools, hs.apart, hs.typed, hs.entry, hs.noEntry, hs.responses, hs.distinct⟩

theorem run_sound {supported : List Nat} {is : List Input}
    (hrun : machine.Run answersLatest { supported := supported } is b) : b.Sound :=
  hrun.invariant Sound (.init supported) fun _ _ _ hs hen hc hstep => hs.step hen hc hstep

/-- No object is twice in a pool, and none that a pool has or hands out next belongs to a request that waits for an
answer, or to a response that waits for the translator. -/
structure Apart (b : BackEndTranslator) : Prop where
  nodup : ∀ k, (b.pools k).objectList.Nodup
  requests : ∀ n q, b.Unanswered n q →
    q.event.object ∉ (b.pools q.event.kind).objectList ∧ (b.pools q.event.kind).get.1 ≠ q.event.object
  responsesNodup : b.responsePool.objectList.Nodup
  responses : ∀ r ∈ b.queue, r.object ∉ b.responsePool.objectList ∧ b.responsePool.get.1 ≠ r.object

theorem Sound.toApart (hs : b.Sound) : b.Apart := by
  refine ⟨fun k => (hs.pools k).nodup, fun n q hq => ?_, hs.responses.nodup, fun r hr => ?_⟩
  · have hheld : b.Holds ⟨q.event.kind, q.event.object⟩ := ⟨n, q, hq, rfl⟩
    exact ⟨(hs.pools q.event.kind).apart _ hheld, fun h => hs.fresh q.event.kind (by rw [h]; exact hheld)⟩
  · have hheld : r.object ∈ b.queue.map Response.object := List.mem_map_of_mem hr
    exact ⟨hs.responses.apart _ hheld, fun h => hs.responses.get.1 (by rw [h]; exact hheld)⟩

end

/-- In every run in which each response answers, for the first time, the latest request of its socket: the pools never
hold an event twice, nor one that still belongs to an unanswered request.  And the next response finds an entry and
releases the event of the request it answers exactly when it is such a response. -/
theorem responses_release_requests {supported : List Nat} {is : List Input} {b : BackEndTranslator}
    (hrun : machine.Run answersLatest { supported := supported } is b) :
    b.Apart ∧ ∀ r rs, b.queue = r :: rs →
      (b.Proper r ↔ ∃ b', b.libraryResponse = .ok b' ∧ b.Releases r b') :=
  ⟨(run_sound hrun).toApart, fun _ _ hqueue => (run_sound hrun).proper_iff hqueue⟩

/-- A socket with descriptor 1 is made and connected; each request is answered. -/
def connectMessages : List Input :=
  [.message { messageType := .socket, fd := 1, type := .stream }, .respond 1 (some 0), .libraryResponse,
    .message { messageType := .connect, fd := 1 }, .respond 1 (some 1), .libraryResponse]

/-- Two sockets wait for answers at a time, and the pools keep apart. -/
theorem responses_release_requests_two : ∃ b, machine.Run answersLatest {}
    (connectMessages ++ [.message { messageType := .recv, fd := 1 },
      .message { messageType := .socket, fd := 2, type := .dgram }, .respond 1 (some 2), .libraryResponse,
      .respond 2 (some 3)]) b ∧ b.answered = [2, 1, 0] ∧ b.Apart ∧
    ∃ r rs b', b.queue = r :: rs ∧ b.libraryResponse = .ok b' ∧ b.Releases r b' := by
  have h : (machine.replay answersLatest (connectMessages ++ [.message { messageType := .recv, fd := 1 },
      .message { messageType := .socket, fd := 2, type := .dgram }, .respond 1 (some 2), .libraryResponse,
      .respond 2 (some 3)]) {}).any (fun b => decide (b.answered = [2, 1, 0]) && b.queue.any fun r =>
        decide (b.queue = [r]) && decide (b.Proper r)) = true := by decide +kernel
  obtain ⟨b, hrun, hq⟩ := Transition.Machine.exists_run h
  simp only [Bool.and_eq_true, decide_eq_true_eq, List.any_eq_true] at hq
  obtain ⟨hanswered, r, -, hqueue, hproper⟩ := hq
  obtain ⟨hapart, hnext⟩ := responses_release_requests hrun
  obtain ⟨b', hok, hreleases⟩ := (hnext r [] hqueue).1 hproper
  exact ⟨b, hrun, hanswered, hapart, r, [], b', hqueue, hok, hreleases⟩

/-- The connected peer closes first: the connection dispatches its response to the request and then the notification of
the FIN, which answers no request.  The translator releases the event of the connect request a second time, and the
pool has it twice.  On an accepted socket that has sent no request the notification finds no entry. -/
theorem responses_release_requests_fin :
    (∃ e, Endpoint.machine.Run Transition.anyStep Endpoint.client (Endpoint.connectScript 100 ++
        [.packet { Endpoint.segment 101 2 [] with fin := true }, .drain]) e ∧
      e.dispatched.filter (fun f => match f with
        | .connectResponse _ | .preclose _ => true
        | _ => false) = [.connectResponse ⟨1, Endpoint.serverAddress, Endpoint.clientAddress.address⟩, .preclose 1]) ∧
    (∃ b, machine.Run Transition.anyStep {} (connectMessages ++ [.respond 1 none, .libraryResponse]) b ∧
      (b.pools .connectEvent).objectList.count 0 = 2) ∧
    ∃ b, machine.Run Transition.anyStep {} (connectMessages ++ [.addSocket 7, .respond 7 none]) b ∧
      b.libraryResponse = .error .noEntry := by
  refine ⟨?_, ?_, ?_⟩
  · have h : (Endpoint.machine.replay Transition.anyStep (Endpoint.connectScript 100 ++
        [.packet { Endpoint.segment 101 2 [] with fin := true }, .drain]) Endpoint.client).any (fun e =>
        decide (e.dispatched.filter (fun f => match f with
          | .connectResponse _ | .preclose _ => true
          | _ => false) =
            [.connectResponse ⟨1, Endpoint.serverAddress, Endpoint.clientAddress.address⟩, .preclose 1])) = true := by
      decide +kernel
    obtain ⟨e, hrun, hq⟩ := Transition.Machine.exists_run h
    exact ⟨e, hrun, of_decide_eq_true hq⟩
  · have h : (machine.replay Transition.anyStep (connectMessages ++ [.respond 1 none, .libraryResponse]) {}).any
        (fun b => decide ((b.pools .connectEvent).objectList.count 0 = 2)) = true := by decide +kernel
    obtain ⟨b, hrun, hq⟩ := Transition.Machine.exists_run h
    exact ⟨b, hrun, of_decide_eq_true hq⟩
  · have h : (machine.replay Transition.anyStep (connectMessages ++ [.addSocket 7, .respond 7 none]) {}).any
        (fun b => match b.libraryResponse with
          | .error a => decide (a = .noEntry)
          | .ok _ => false) = true := by decide +kernel
    obtain ⟨b, hrun, hq⟩ := Transition.Machine.exists_run h
    refine ⟨b, hrun, ?_⟩
    split at hq
    · rename_i a ha
      rw [ha, of_decide_eq_true hq]
    · cases hq

end BackEndTranslator

end Wifu
