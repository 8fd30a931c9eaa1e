import Wifu.StoredEvents
import Wifu.RequestOwnership

/-!
# Kept events and the requests they came with

An object of a pool carries the request that it was handed out for last.  So a kept event is read rightly as long as its
object has not been handed out again since; of the address that an event has parsed this holds when no connect request
with the same object has asked for another one before.  And only an active open keeps a connect event at all.
-/

namespace Wifu

namespace DispatchedEvent

/-- The event was dispatched for a request of the socket. -/
def From (rs : List Request) (s : SocketId) (d : DispatchedEvent) : Prop :=
  ∃ q, rs[d.request]? = some q ∧ q.event = d.event ∧ q.socket = s

/-- No later request has been given the object. -/
def Current (rs : List Request) (d : DispatchedEvent) : Prop := ∀ q ∈ rs.drop (d.request + 1), q.event ≠ d.event

instance (rs : List Request) (d : DispatchedEvent) : Decidable (d.Current rs) :=
  inferInstanceAs (Decidable (∀ q ∈ rs.drop (d.request + 1), q.event ≠ d.event))

/-- The object has the socket and the message of the request that the event was dispatched for, one of the socket. -/
def Carries (rs : List Request) (s : SocketId) (d : DispatchedEvent) (e : LibraryEvent) : Prop :=
  ∃ q, rs[d.request]? = some q ∧ q.event = d.event ∧ q.socket = s ∧ e.socket = s ∧ e.message = q.message

variable {rs : List Request} {s : SocketId} {d : DispatchedEvent} {e : LibraryEvent} {q : Request}

theorem getElem?_append {n : Nat} (h : rs[n]? = some q) (r : Request) : (rs ++ [r])[n]? = some q := by
  rw [List.getElem?_append_left (List.getElem?_eq_some_iff.1 h).1]
  exact h

theorem From.append (h : d.From rs s) (r : Request) : d.From (rs ++ [r]) s := by
  obtain ⟨q, hq, hevent, hs⟩ := h
  exact ⟨q, getElem?_append hq r, hevent, hs⟩

theorem Carries.append (h : d.Carries rs s e) (r : Request) : d.Carries (rs ++ [r]) s e := by
  obtain ⟨q, hq, hcarries⟩ := h
  exact ⟨q, getElem?_append hq r, hcarries⟩

end DispatchedEvent

/-- What has been read is of the request that the socket's event came with; an event that is looked at was set. -/
def EventRead.Right (rs : List Request) : EventRead → Prop
  | .connect s kept => ∃ d e, kept = some (d, e) ∧ d.Carries rs s e
  | .listen s kept => ∃ d ∈ kept, d.From rs s
  | .process s d e a => d.Carries rs s e ∧ a = e.message.addr

theorem EventRead.Right.append {rs : List Request} {r : EventRead} (h : r.Right rs) (q : Request) :
    r.Right (rs ++ [q]) := by
  cases r with
  | connect s kept =>
    obtain ⟨d, e, hkept, hcarries⟩ := h
    exact ⟨d, e, hkept, hcarries.append q⟩
  | listen s kept =>
    obtain ⟨d, hd, hfrom⟩ := h
    exact ⟨d, hd, hfrom.append q⟩
  | process s d e a => exact ⟨h.1.append q, h.2⟩

/-- A manager that listens keeps a listen event of its socket, and one that has connected a connect event. -/
structure ManagerPointers.Keeps (rs : List Request) (s : SocketId) (c : ManagerPointers) : Prop where
  listen : c.state = .listen → c.connectionType = .passiveOpen ∧ ∃ d ∈ c.listenEvent, d.From rs s
  connect : c.connectionType = .activeOpen → ∃ d ∈ c.connectEvent, d.From rs s

theorem ManagerPointers.Keeps.append {rs : List Request} {s : SocketId} {c : ManagerPointers} (h : c.Keeps rs s)
    (q : Request) : c.Keeps (rs ++ [q]) s := by
  refine ⟨fun hl => ?_, fun ha => ?_⟩
  · obtain ⟨htype, d, hd, hfrom⟩ := h.listen hl
    exact ⟨htype, d, hd, hfrom.append q⟩
  · obtain ⟨d, hd, hfrom⟩ := h.connect ha
    exact ⟨d, hd, hfrom.append q⟩

theorem ManagerPointers.Keeps.withState {rs : List Request} {s : SocketId} {c : ManagerPointers} (h : c.Keeps rs s)
    {st : ConnectionManagerState} (hst : st ≠ .listen) : ({ c with state := st } : ManagerPointers).Keeps rs s :=
  ⟨fun hl => absurd hl hst, h.connect⟩

theorem ManagerPointers.keeps_new (rs : List Request) (s : SocketId) : ({} : ManagerPointers).Keeps rs s := by
  refine ⟨fun hl => ?_, fun ha => ?_⟩
  · cases hl
  · cases ha

/-- The address that a processed event gave is not the one that its message asks for. -/
def EventRead.misdirected : EventRead → Bool
  | .process _ _ e a => a != e.message.addr
  | _ => false

theorem EventRead.Right.not_misdirected {rs : List Request} {r : EventRead} (h : r.Right rs) :
    r.misdirected = false := by
  cases r with
  | process s d e a => exact bne_eq_false_iff_eq.2 h.2
  | connect | listen => rfl

/-- The packet makes the manager read its connect event. -/
def ManagerPointers.ReadsConnect (c : ManagerPointers) (p : TCPPacket) : Prop :=
  c.state = .synSent ∧ p.syn = true ∧ p.ack = true ∨ c.state = .synReceived ∧ p.ack = true ∨
    c.state = .established ∧ p.syn = false ∧ p.fin = true

instance (c : ManagerPointers) (p : TCPPacket) : Decidable (c.ReadsConnect p) := inferInstanceAs (Decidable (_ ∨ _))

/-- What `receive` does to the requests and the events. -/
theorem BackEndTranslator.receive_cases {b b' : BackEndTranslator} {m : FrontEndMessage} (h : b.receive m = .ok b') :
    (b'.requests = b.requests ∧ b'.events = b.events) ∨ ∃ q, b'.requests = b.requests ++ [q] ∧
      b'.events = Function.update b.events q.event (((b.events q.event).setSocket q.socket).saveBuffer q.message) := by
  unfold BackEndTranslator.receive at h
  split at h
  · cases h
  · split at h
    · cases h
      exact .inr ⟨_, rfl, rfl⟩
    · cases h
      exact .inl ⟨rfl, rfl⟩
  · split at h
    · cases h
      exact .inr ⟨_, rfl, rfl⟩
    · cases h

/-- While a request waits for its answer, and the responses are proper, no later request is given its object. -/
theorem BackEndTranslator.Sound.current {b : BackEndTranslator} {d : DispatchedEvent} {q : Request} (h : b.Sound)
    (hq : b.Unanswered d.request q) (hevent : q.event = d.event) : d.Current b.requests := by
  intro q' hq'
  obtain ⟨k, hk⟩ := List.getElem?_of_mem hq'
  rw [List.getElem?_drop] at hk
  rw [← hevent]
  exact h.apart d.request q hq (d.request + 1 + k) q' (by omega) hk

namespace TransportBackEnd

/-- The connect requests with the same object that a manager has processed asked for the same address. -/
def AsksSame (t : TransportBackEnd) (d : DispatchedEvent) : Prop :=
  ∀ n ∈ t.connects, ∀ q ∈ t.translator.requests[n]?, ∀ q' ∈ t.translator.requests[d.request]?,
    q.event = d.event → q.message.addr = q'.message.addr

instance (t : TransportBackEnd) (d : DispatchedEvent) : Decidable (t.AsksSame d) :=
  inferInstanceAs (Decidable (∀ n ∈ t.connects, ∀ q ∈ t.translator.requests[n]?,
    ∀ q' ∈ t.translator.requests[d.request]?, q.event = d.event → q.message.addr = q'.message.addr))

/-- A closed manager is to process the event: then no later request has its object, and it is asked for the address that
the object has parsed, if it is a connect event. -/
def OwnRequest (t : TransportBackEnd) (d : DispatchedEvent) (refused : Bool) : Prop :=
  ∀ c ∈ t.managers (t.translator.events d.event).socket, c.state = .closed →
    (d.event.kind = .listenEvent → refused = false → d.Current t.translator.requests) ∧
    (d.event.kind = .connectEvent → d.Current t.translator.requests ∧ t.AsksSame d)

instance (t : TransportBackEnd) (d : DispatchedEvent) (refused : Bool) : Decidable (t.OwnRequest d refused) :=
  inferInstanceAs (Decidable (∀ c ∈ t.managers (t.translator.events d.event).socket, c.state = .closed → _ ∧ _))

/-- A manager that reads its connect event has made an active open, and no later request has the object. -/
def OwnConnect (t : TransportBackEnd) (s : SocketId) (p : TCPPacket) : Prop :=
  ∀ c ∈ t.managers s, c.ReadsConnect p →
    c.connectionType = .activeOpen ∧ ∀ d ∈ c.connectEvent, d.Current t.translator.requests

instance (t : TransportBackEnd) (s : SocketId) (p : TCPPacket) : Decidable (t.OwnConnect s p) :=
  inferInstanceAs (Decidable (∀ c ∈ t.managers s, c.ReadsConnect p → _ ∧ _))

/-- The events that are processed and the kept events that are read have not been given to another request. -/
def KeepsToRequests (t : TransportBackEnd) : Input → Prop
  | .take k refused => ∀ d ∈ t.pending[k]?, t.OwnRequest d refused
  | .packet s p _ => t.OwnConnect s p
  | _ => True

instance (t : TransportBackEnd) : (i : Input) → Decidable (t.KeepsToRequests i)
  | .take k refused => inferInstanceAs (Decidable (∀ d ∈ t.pending[k]?, t.OwnRequest d refused))
  | .packet s p _ => inferInstanceAs (Decidable (t.OwnConnect s p))
  | .message _ | .newConnectionInitiated | .close _ | .timerFired _ | .deleteSocket _ | .respond _ _
  | .libraryResponse => .isTrue trivial

/-- What holds along the runs that keep to their requests. -/
structure Kept (t : TransportBackEnd) : Prop where
  contents : ∀ n q, t.translator.requests[n]? = some q →
    (∀ r ∈ t.translator.requests.drop (n + 1), r.event ≠ q.event) →
      (t.translator.events q.event).socket = q.socket ∧ (t.translator.events q.event).message = q.message
  parsed : ∀ e, ∀ a ∈ (t.translator.events e).address, ∃ n ∈ t.connects, ∃ q,
    t.translator.requests[n]? = some q ∧ q.event = e ∧ q.message.addr = a
  pending : ∀ d ∈ t.pending, ∃ q, t.translator.requests[d.request]? = some q ∧ q.event = d.event
  managers : ∀ s c, t.managers s = some c → c.Keeps t.translator.requests s
  single : t.initiations.length ≤ 1
  initiations : ∀ i ∈ t.initiations, (∃ d ∈ i.listenEvent, d.From t.translator.requests i.listening) ∧
    ∀ c, t.managers i.listening = some c → c.connectionType = .passiveOpen ∧ c.state ≠ .listen
  reads : ∀ r ∈ t.reads, r.Right t.translator.requests

section

variable {t t' : TransportBackEnd} {s new : SocketId} {c : ManagerPointers} {d : DispatchedEvent} {p : TCPPacket}
  {b : BackEndTranslator} {refused : Bool}

theorem Kept.start : Kept {} := by
  refine ⟨fun n q hq => ?_, fun e a ha => ?_, fun d hd => ?_, fun s c hc => ?_, Nat.zero_le 1, fun i hi => ?_,
    fun r hr => ?_⟩
  · cases hq
  · cases ha
  · cases hd
  · cases hc
  · cases hi
  · cases hr

/-! ### Parts of a step -/

/-- The translator may change what has nothing to do with the requests. -/
theorem Kept.withTranslator (h : t.Kept) (hrequests : b.requests = t.translator.requests)
    (hevents : b.events = t.translator.events) : Kept { t with translator := b } := by
  obtain ⟨h₁, h₂, h₃, h₄, h₅, h₆, h₇⟩ := h
  rw [← hrequests] at h₁ h₂ h₃ h₄ h₆ h₇
  rw [← hevents] at h₁ h₂
  exact ⟨h₁, h₂, h₃, h₄, h₅, h₆, h₇⟩

theorem Kept.setManager (h : t.Kept) (hi : t.initiations = []) (hc : c.Keeps t.translator.requests s) :
    (t.setManager s c).Kept := by
  refine ⟨h.contents, h.parsed, h.pending, fun r m hm => ?_, h.single, fun i hmem => ?_, h.reads⟩
  · by_cases hr : r = s
    · subst hr
      have hm : Function.update t.managers r (some c) r = some m := hm
      rw [Function.update_self, Option.some.injEq] at hm
      exact hm ▸ hc
    · have hm : Function.update t.managers s (some c) r = some m := hm
      rw [Function.update_of_ne hr] at hm
      exact h.managers r m hm
  · have hmem : i ∈ t.initiations := hmem
    rw [hi] at hmem
    cases hmem

theorem Kept.record {rs : List EventRead} (h : t.Kept) (hr : ∀ r ∈ rs, r.Right t.translator.requests) :
    Kept { t with reads := t.reads ++ rs } :=
  ⟨h.contents, h.parsed, h.pending, h.managers, h.single, h.initiations,
    fun r hmem => (List.mem_append.1 hmem).elim (h.reads r) (hr r)⟩

/-- An object that no later request has been given carries its request. -/
theorem Kept.carries (h : t.Kept) (hd : d.From t.translator.requests s) (hc : d.Current t.translator.requests) :
    d.Carries t.translator.requests s (t.translator.events d.event) := by
  obtain ⟨q, hq, hevent, hs⟩ := hd
  obtain ⟨hsocket, hmessage⟩ := h.contents d.request q hq (by rw [hevent]; exact hc)
  rw [hevent] at hsocket hmessage
  exact ⟨q, hq, hevent, hs, hsocket.trans hs, hmessage⟩

/-- An event on its way whose object no later request has been given is one of the socket that it is found to have. -/
theorem Kept.from_current (h : t.Kept) (hd : ∃ q, t.translator.requests[d.request]? = some q ∧ q.event = d.event)
    (hc : d.Current t.translator.requests) :
    d.From t.translator.requests (t.translator.events d.event).socket := by
  obtain ⟨q, hq, hevent⟩ := hd
  have hsocket := (h.contents d.request q hq (by rw [hevent]; exact hc)).1
  rw [hevent] at hsocket
  exact ⟨q, hq, hevent, hsocket.symm⟩

/-! ### The translator's steps -/

/-- A new request: its object carries it, and older requests with the object are not current any more. -/
theorem Kept.dispatched {q : Request} (h : t.Kept) (hrequests : b.requests = t.translator.requests ++ [q])
    (hevents : b.events = Function.update t.translator.events q.event
      (((t.translator.events q.event).setSocket q.socket).saveBuffer q.message)) :
    Kept { t with
      translator := b
      pending := t.pending ++ [⟨q.event, t.translator.requests.length⟩] } := by
  have hlast : b.requests[t.translator.requests.length]? = some q := by
    rw [hrequests, List.getElem?_concat_length]
  have hold {n : Nat} {r : Request} (hr : t.translator.requests[n]? = some r) : b.requests[n]? = some r := by
    rw [hrequests]
    exact DispatchedEvent.getElem?_append hr q
  refine ⟨fun n r hr hlater => ?_, fun e a ha => ?_, fun d hd => ?_, fun s c hc => ?_, h.single, fun i hi => ?_,
    fun r hr => ?_⟩
  · simp only [hrequests, hevents] at hr hlater ⊢
    rcases BackEndTranslator.getElem?_concat hr with hr | ⟨rfl, rfl⟩
    · have hlt : n < t.translator.requests.length := (List.getElem?_eq_some_iff.1 hr).1
      rw [List.drop_append_of_le_length (by omega)] at hlater
      rw [Function.update_of_ne (hlater q (by simp)).symm]
      exact h.contents n r hr fun x hx => hlater x (List.mem_append_left _ hx)
    · rw [Function.update_self]
      exact ⟨rfl, rfl⟩
  · have haddress : (b.events e).address = (t.translator.events e).address := by
      rw [hevents]
      by_cases he : e = q.event
      · rw [he, Function.update_self]
        rfl
      · rw [Function.update_of_ne he]
    obtain ⟨n, hn, r, hr, hevent⟩ := h.parsed e a (haddress ▸ ha)
    exact ⟨n, hn, r, hold hr, hevent⟩
  · rcases List.mem_append.1 hd with hd | hd
    · obtain ⟨r, hr, hevent⟩ := h.pending d hd
      exact ⟨r, hold hr, hevent⟩
    · rw [List.mem_singleton.1 hd]
      exact ⟨q, hlast, rfl⟩
  · simp only [hrequests]
    exact (h.managers s c hc).append q
  · obtain ⟨⟨d, hd, hfrom⟩, hpassive⟩ := h.initiations i hi
    refine ⟨⟨d, hd, ?_⟩, hpassive⟩
    simp only [hrequests]
    exact hfrom.append q
  · simp only [hrequests]
    exact (h.reads r hr).append q

theorem Kept.receive {m : FrontEndMessage} (h : t.Kept) (hok : t.receive m = .ok t') : t'.Kept := by
  unfold TransportBackEnd.receive at hok
  split at hok
  · cases hok
  · rename_i b hb
    cases hok
    rcases BackEndTranslator.receive_cases hb with ⟨hrequests, hevents⟩ | ⟨q, hrequests, hevents⟩
    · have hnone : b.requests.drop t.translator.requests.length = [] := by rw [hrequests, List.drop_length]
      simp only [hnone, List.map_nil, List.append_nil]
      exact h.withTranslator hrequests hevents
    · have hone : b.requests.drop t.translator.requests.length = [q] := by rw [hrequests, List.drop_left]
      simp only [hone, List.map_cons, List.map_nil]
      exact h.dispatched hrequests hevents

theorem libraryResponse_requests {b b' : BackEndTranslator} (h : b.libraryResponse = .ok b') :
    b'.requests = b.requests ∧ b'.events = b.events := by
  unfold BackEndTranslator.libraryResponse at h
  split at h
  · cases h
    exact ⟨rfl, rfl⟩
  · split at h
    · cases h
    · split at h
      · cases h
      · cases h
        exact ⟨rfl, rfl⟩

/-! ### Requests -/

theorem Kept.stateListen (h : t.Kept) (hi : t.initiations = [])
    (hd : c.state = .closed → d.From t.translator.requests s) : (t.stateListen d s c).Kept := by
  unfold TransportBackEnd.stateListen
  split
  · rename_i hclosed
    refine h.setManager hi ⟨fun _ => ⟨rfl, d, rfl, hd hclosed⟩, fun ha => ?_⟩
    cases ha
  · exact h

/-- Parsing the address changes neither the socket nor the message. -/
theorem getAddress_snd (e : LibraryEvent) : e.getAddress.2.socket = e.socket ∧ e.getAddress.2.message = e.message ∧
    e.getAddress.2.address = some e.getAddress.1 := by
  unfold LibraryEvent.getAddress
  split
  · rename_i a ha
    exact ⟨rfl, rfl, ha⟩
  · exact ⟨rfl, rfl, rfl⟩

/-- The address is the one asked for when all processed requests with the object have asked for it. -/
theorem Kept.getAddress_fst (h : t.Kept) (hd : d.Carries t.translator.requests s (t.translator.events d.event))
    (hsame : t.AsksSame d) :
    (t.translator.events d.event).getAddress.1 = (t.translator.events d.event).message.addr := by
  obtain ⟨q, hq, -, -, -, hmessage⟩ := hd
  unfold LibraryEvent.getAddress
  split
  · rename_i a ha
    obtain ⟨n, hn, r, hr, hevent, haddr⟩ := h.parsed d.event a ha
    rw [hmessage, ← haddr]
    exact hsame n hn r hr q hq hevent
  · rfl

/-- The object remembers the address of the request that it carries. -/
theorem Kept.parse (h : t.Kept) (hd : d.Carries t.translator.requests s (t.translator.events d.event))
    (hsame : t.AsksSame d) :
    Kept { t with
      translator := { t.translator with
        events := Function.update t.translator.events d.event (t.translator.events d.event).getAddress.2 }
      connects := t.connects ++ [d.request] } := by
  obtain ⟨hsocket, hmessage, haddress⟩ := getAddress_snd (t.translator.events d.event)
  have hasked := h.getAddress_fst hd hsame
  refine ⟨fun n q hq hlater => ?_, fun e a ha => ?_, h.pending, h.managers, h.single, h.initiations, h.reads⟩
  · have hold := h.contents n q hq hlater
    simp only
    by_cases he : q.event = d.event
    · rw [he] at hold
      rw [he, Function.update_self, hsocket, hmessage]
      exact hold
    · rw [Function.update_of_ne he]
      exact hold
  · simp only at ha
    by_cases he : e = d.event
    · subst he
      rw [Function.update_self, haddress, hasked] at ha
      cases ha
      obtain ⟨q, hq, hevent, -, -, hm⟩ := hd
      exact ⟨d.request, List.mem_append_right _ (List.mem_singleton_self _), q, hq, hevent, by rw [hm]⟩
    · rw [Function.update_of_ne he] at ha
      obtain ⟨n, hn, q, hq, hevent⟩ := h.parsed e a ha
      exact ⟨n, List.mem_append_left _ hn, q, hq, hevent⟩

theorem Kept.stateConnect (h : t.Kept) (hi : t.initiations = [])
    (hd : c.state = .closed → d.From t.translator.requests s ∧ d.Current t.translator.requests ∧ t.AsksSame d) :
    (t.stateConnect d s c).Kept := by
  unfold TransportBackEnd.stateConnect
  split
  · rename_i hclosed
    obtain ⟨hfrom, hcurrent, hsame⟩ := hd hclosed
    have hcarries := h.carries hfrom hcurrent
    have hread : (EventRead.process s d (t.translator.events d.event)
        (t.translator.events d.event).getAddress.1).Right t.translator.requests :=
      ⟨hcarries, h.getAddress_fst hcarries hsame⟩
    refine ((h.parse hcarries hsame).record fun r hr => ?_).setManager hi ⟨fun hl => ?_, fun _ => ⟨d, rfl, hfrom⟩⟩
    · rw [List.mem_singleton.1 hr]
      exact hread
    · cases hl
  · exact h

/-- The protocol handles an event whose request is its own. -/
theorem Kept.handle (h : t.Kept) (hi : t.initiations = [])
    (hd : ∃ q, t.translator.requests[d.request]? = some q ∧ q.event = d.event) (hown : t.OwnRequest d refused) :
    (t.handle d refused).Kept := by
  unfold TransportBackEnd.handle
  simp only
  split
  · unfold librarySocket
    split
    · exact h.setManager hi (ManagerPointers.keeps_new _ _)
    · exact h
  · rename_i hkind
    split
    · exact h
    · rename_i c hc
      split
      · exact h
      · rename_i hrefused
        exact h.stateListen hi fun hclosed =>
          h.from_current hd ((hown c hc hclosed).1 hkind (by simpa using hrefused))
  · rename_i hkind
    split
    · exact h
    · rename_i c hc
      refine h.stateConnect hi fun hclosed => ?_
      obtain ⟨hcurrent, hsame⟩ := (hown c hc hclosed).2 hkind
      exact ⟨h.from_current hd hcurrent, hcurrent, hsame⟩
  · exact h

theorem Kept.take {k : Nat} (h : t.Kept) (hi : t.initiations = []) (hown : ∀ d ∈ t.pending[k]?, t.OwnRequest d refused) :
    (t.take k refused).Kept := by
  unfold TransportBackEnd.take
  split
  · exact h
  · rename_i d hd
    have hrest : Kept { t with pending := t.pending.eraseIdx k } :=
      ⟨h.contents, h.parsed, fun d' hd' => h.pending d' (List.mem_of_mem_eraseIdx hd'), h.managers, h.single,
        h.initiations, h.reads⟩
    exact hrest.handle hi (h.pending d (List.mem_of_getElem? hd)) (hown d hd)

/-! ### Packets -/

/-- What the kept connect event of an active open is read as. -/
theorem Kept.keptConnect (h : t.Kept) (hc : c.Keeps t.translator.requests s) (ha : c.connectionType = .activeOpen)
    (hcurrent : ∀ d ∈ c.connectEvent, d.Current t.translator.requests) :
    ∃ d e, t.keptConnect c = some (d, e) ∧ d.Carries t.translator.requests s e := by
  obtain ⟨d, hd, hfrom⟩ := hc.connect ha
  have hd : c.connectEvent = some d := hd
  refine ⟨d, t.translator.events d.event, ?_, h.carries hfrom (hcurrent d hd)⟩
  unfold TransportBackEnd.keptConnect
  rw [hd]
  rfl

theorem Kept.establish (h : t.Kept) (hi : t.initiations = []) (hc : c.Keeps t.translator.requests s)
    (ha : c.connectionType = .activeOpen) (hcurrent : ∀ d ∈ c.connectEvent, d.Current t.translator.requests) :
    (t.establish s c).Kept := by
  obtain ⟨d, e, hkept, hcarries⟩ := h.keptConnect hc ha hcurrent
  have hrecorded : Kept (({ t with reads := t.reads ++ [EventRead.connect s (some (d, e))] } :
      TransportBackEnd).setManager s { c with state := .established }) := by
    refine (h.record fun r hr => ?_).setManager hi (hc.withState (by decide))
    rw [List.mem_singleton.1 hr]
    exact ⟨d, e, rfl, hcarries⟩
  unfold TransportBackEnd.establish
  simp only [hkept]
  split
  · exact hrecorded.withTranslator rfl rfl
  · exact hrecorded

theorem Kept.preclose (h : t.Kept) (hi : t.initiations = []) (hc : c.Keeps t.translator.requests s)
    (ha : c.connectionType = .activeOpen) (hcurrent : ∀ d ∈ c.connectEvent, d.Current t.translator.requests) :
    (t.preclose s c).Kept := by
  obtain ⟨d, e, hkept, hcarries⟩ := h.keptConnect hc ha hcurrent
  have hreads : t.frontEndReads s c = [.connect s (some (d, e))] := by
    unfold frontEndReads
    rw [hkept]
  unfold TransportBackEnd.preclose
  simp only [hreads]
  have hresponded : Kept { t with translator := t.translator.respond s none } := h.withTranslator rfl rfl
  refine (hresponded.record fun r hr => ?_).setManager hi (hc.withState (by decide))
  rw [List.mem_singleton.1 hr]
  exact ⟨d, e, rfl, hcarries⟩

/-- A listening manager hands its listen event on. -/
theorem Kept.processSyn (h : t.Kept) (hi : t.initiations = []) (hc : t.managers s = some c) (hl : c.state = .listen) :
    (t.processSyn s new c).Kept := by
  have hkeeps := h.managers s c hc
  obtain ⟨hpassive, d, hd, hfrom⟩ := hkeeps.listen hl
  have hsockets : Kept { t with translator := { t.translator with sockets := new :: t.translator.sockets } } :=
    h.withTranslator rfl rfl
  have hread : Kept { t with
      translator := { t.translator with sockets := new :: t.translator.sockets }
      reads := t.reads ++ [EventRead.listen s c.listenEvent] } := by
    refine hsockets.record fun r hr => ?_
    rw [List.mem_singleton.1 hr]
    exact ⟨d, hd, hfrom⟩
  have hmoved : ({ c with state := .synReceived } : ManagerPointers).Keeps t.translator.requests s :=
    hkeeps.withState (by decide)
  have hset := hread.setManager hi hmoved
  refine ⟨hset.contents, hset.parsed, hset.pending, hset.managers, ?_, fun i hmem => ?_, hset.reads⟩
  · show (t.initiations ++ [_]).length ≤ 1
    rw [hi]
    exact Nat.le_refl 1
  · have hmem : i ∈ t.initiations ++ [Initiation.mk s new c.listenEvent] := hmem
    rw [hi, List.nil_append, List.mem_singleton] at hmem
    subst hmem
    refine ⟨⟨d, hd, hfrom⟩, fun m hm => ?_⟩
    have hm : Function.update t.managers s (some { c with state := .synReceived }) s = some m := hm
    rw [Function.update_self, Option.some.injEq] at hm
    subst hm
    exact ⟨hpassive, fun hs => by cases hs⟩

theorem Kept.receivePacket (h : t.Kept) (hi : t.initiations = []) (hown : t.OwnConnect s p) :
    (t.receivePacket s p new).Kept := by
  unfold TransportBackEnd.receivePacket
  split
  · exact h
  · rename_i c hc
    have hkeeps := h.managers s c hc
    have hmove {st : ConnectionManagerState} (hst : st ≠ .listen) : (t.setManager s { c with state := st }).Kept :=
      h.setManager hi (hkeeps.withState hst)
    split
    case h_1 hstate =>
      split
      · exact h.processSyn hi hc hstate
      · exact h
    case h_2 hstate =>
      split
      · rename_i hp
        rw [Bool.and_eq_true] at hp
        obtain ⟨ha, hcurrent⟩ := hown c hc (.inl ⟨hstate, hp⟩)
        exact h.establish hi hkeeps ha hcurrent
      · exact h
    case h_3 hstate =>
      split
      · rename_i hp
        obtain ⟨ha, hcurrent⟩ := hown c hc (.inr (.inl ⟨hstate, hp⟩))
        exact h.establish hi hkeeps ha hcurrent
      · exact h
    case h_4 hstate =>
      split
      · exact h
      · rename_i hsyn
        split
        · rename_i hfin
          obtain ⟨ha, hcurrent⟩ := hown c hc (.inr (.inr ⟨hstate, by simpa using hsyn, hfin⟩))
          exact h.preclose hi hkeeps ha hcurrent
        · exact h
    case h_5 =>
      split
      · exact hmove (by decide)
      · split
        · exact hmove (by decide)
        · exact h
    case h_9 | h_10 | h_11 => exact h
    all_goals
      split
      · exact hmove (by decide)
      · exact h

/-- The container of a listening socket moves to the new socket. -/
theorem Kept.newConnectionInitiated (h : t.Kept) : t.newConnectionInitiated.Kept := by
  unfold TransportBackEnd.newConnectionInitiated
  split
  · exact h
  · rename_i i is hi
    have hnone : is = [] := by
      have hsingle := h.single
      rw [hi, List.length_cons] at hsingle
      exact List.length_eq_zero_iff.1 (by omega)
    subst hnone
    obtain ⟨⟨d, hd, hfrom⟩, hpassive⟩ := h.initiations i (by rw [hi]; exact List.mem_singleton_self i)
    have hpopped : Kept { t with initiations := [] } :=
      ⟨h.contents, h.parsed, h.pending, h.managers, Nat.zero_le 1, fun _ hmem => (List.not_mem_nil hmem).elim, h.reads⟩
    simp only
    split
    · exact hpopped
    · rename_i c hc
      obtain ⟨htype, hstate⟩ := hpassive c hc
      refine (hpopped.setManager rfl ⟨fun hl => absurd hl hstate, fun ha => ?_⟩).setManager rfl
        ⟨fun _ => ⟨rfl, d, hd, hfrom⟩, fun ha => ?_⟩
      · rw [htype] at ha
        cases ha
      · cases ha

/-! ### Closing -/

theorem Kept.stateClose (h : t.Kept) (hi : t.initiations = []) (s : SocketId) : (t.stateClose s).Kept := by
  unfold TransportBackEnd.stateClose
  split
  · exact h
  · rename_i c hc
    have hmove {st : ConnectionManagerState} (hst : st ≠ .listen) : (t.setManager s { c with state := st }).Kept :=
      h.setManager hi ((h.managers s c hc).withState hst)
    split
    · exact hmove (by decide)
    · exact hmove (by decide)
    · exact hmove (by decide)
    · exact h

theorem Kept.stateTimerFired (h : t.Kept) (hi : t.initiations = []) (s : SocketId) : (t.stateTimerFired s).Kept := by
  unfold TransportBackEnd.stateTimerFired
  split
  · exact h
  · rename_i c hc
    split
    · exact h.setManager hi ((h.managers s c hc).withState (by decide))
    · exact h

theorem Kept.deleteSocket (h : t.Kept) (hi : t.initiations = []) (s : SocketId) : (t.deleteSocket s).Kept := by
  refine ⟨h.contents, h.parsed, h.pending, fun r c hc => ?_, h.single, fun i hmem => ?_, h.reads⟩
  · have hc : Function.update t.managers s none r = some c := hc
    by_cases hr : r = s
    · rw [hr, Function.update_self] at hc
      cases hc
    · rw [Function.update_of_ne hr] at hc
      exact h.managers r c hc
  · have hmem : i ∈ t.initiations := hmem
    rw [hi] at hmem
    cases hmem

/-! ### Runs -/

theorem Kept.step {i : Input} (h : t.Kept) (hen : enabled i t) (hown : t.KeepsToRequests i)
    (hok : TransportBackEnd.step i t = .ok t') : t'.Kept := by
  cases i with
  | message m => exact h.receive hok
  | take k refused =>
    cases hok
    exact h.take hen hown
  | packet s p new =>
    cases hok
    exact h.receivePacket hen hown
  | newConnectionInitiated =>
    cases hok
    exact h.newConnectionInitiated
  | close s =>
    cases hok
    exact h.stateClose hen s
  | timerFired s =>
    cases hok
    exact h.stateTimerFired hen s
  | deleteSocket s =>
    cases hok
    exact h.deleteSocket hen s
  | respond s answers =>
    cases hok
    exact h.withTranslator rfl rfl
  | libraryResponse =>
    have hok : t.libraryResponse = .ok t' := hok
    unfold TransportBackEnd.libraryResponse at hok
    split at hok
    · cases hok
    · rename_i b hb
      cases hok
      obtain ⟨hrequests, hevents⟩ := libraryResponse_requests hb
      exact h.withTranslator hrequests hevents

end

/-- In every run in which the events that a closed manager processes, and the connect events that the managers read, have
not been given to a later request, no processed connect request finds the parsed address of another one, and only an
active open gets as far as reading its connect event: everything that the managers read of their events was set, and is
what the request of the socket carried. -/
theorem reads_right {is : List Input} {t : TransportBackEnd}
    (hrun : machine.Run KeepsToRequests {} is t) : ∀ r ∈ t.reads, r.Right t.translator.requests :=
  (hrun.invariant Kept .start fun _ _ _ ht hen hown hstep => ht.step hen hown hstep).reads

/-- A packet from the peer with these bits. -/
def packet (syn ack fin : Bool) : TCPPacket := { TCPPacket.new ⟨1, 1⟩ ⟨2, 2⟩ [] with syn := syn, ack := ack, fin := fin }

/-- A new socket asks for the request number `n`, and gets its answer. -/
def openSocket (fd : SocketId) (n : Nat) : List Input :=
  [.message { messageType := .socket, fd := fd, type := .stream }, .take 0 false, .respond fd (some n), .libraryResponse]

/-- It connects, and the connection is established and answered. -/
def connectTo (fd : SocketId) (address : AddressPort) : List Input :=
  [.message { messageType := .connect, fd := fd, addr := address }, .take 0 false, .packet fd (packet true true false) 0,
    .libraryResponse]

/-- It listens, and a connection is made. -/
def listenOn (fd new : SocketId) (n : Nat) : List Input :=
  [.message { messageType := .listen, fd := fd }, .take 0 false, .respond fd (some n), .libraryResponse,
    .packet fd (packet true false false) new, .newConnectionInitiated]

/-- One socket connects and is closed by its peer, another one gets a SYN. -/
theorem reads_right_closed : ∃ t, machine.Run KeepsToRequests {}
    (openSocket 1 0 ++ connectTo 1 ⟨7, 80⟩ ++ .packet 1 (packet false true true) 0 :: openSocket 2 2 ++ listenOn 2 3 3) t ∧
      t.reads.length = 4 ∧ ∀ r ∈ t.reads, r.Right t.translator.requests := by
  have h : (machine.replay KeepsToRequests (openSocket 1 0 ++ connectTo 1 ⟨7, 80⟩ ++
      .packet 1 (packet false true true) 0 :: openSocket 2 2 ++ listenOn 2 3 3) {}).any
        (fun t => decide (t.reads.length = 4)) = true := by decide +kernel
  obtain ⟨t, hrun, hq⟩ := Transition.Machine.exists_run h
  exact ⟨t, hrun, of_decide_eq_true hq, reads_right hrun⟩

/-- Socket `k + 1` connects, after the sockets before it. -/
def connectNext (k : Nat) (address : AddressPort) : List Input :=
  openSocket (k + 1) (2 * k) ++ connectTo (k + 1) address

/-- A passive open reads a connect event that nothing has set.  And when ten sockets have connected to one address, the
eleventh one, which asks for another address, gets the first. -/
theorem reads_wrong :
    (∃ t, machine.Run Transition.anyStep {} (openSocket 2 0 ++ listenOn 2 3 1 ++ [.packet 3 (packet false true false) 0]) t ∧
      .connect 3 none ∈ t.reads ∧ ¬∀ r ∈ t.reads, r.Right t.translator.requests) ∧
    ∃ t, machine.Run Transition.anyStep {}
        ((List.range 10).flatMap (fun k => connectNext k ⟨7, 80⟩) ++ connectNext 10 ⟨8, 80⟩) t ∧
      ¬∀ r ∈ t.reads, r.Right t.translator.requests := by
  constructor
  · have h : (machine.replay Transition.anyStep (openSocket 2 0 ++ listenOn 2 3 1 ++
        [.packet 3 (packet false true false) 0]) {}).any (fun t => decide (.connect 3 none ∈ t.reads)) = true := by
      decide +kernel
    obtain ⟨t, hrun, hq⟩ := Transition.Machine.exists_run h
    have hmem := of_decide_eq_true hq
    refine ⟨t, hrun, hmem, fun hright => ?_⟩
    obtain ⟨d, e, hkept, -⟩ := hright _ hmem
    cases hkept
  · have h : (machine.replay Transition.anyStep ((List.range 10).flatMap (fun k => connectNext k ⟨7, 80⟩) ++
        connectNext 10 ⟨8, 80⟩) {}).any (fun t => t.reads.any EventRead.misdirected) = true := by
      decide +kernel
    obtain ⟨t, hrun, hq⟩ := Transition.Machine.exists_run h
    obtain ⟨r, hr, hwrong⟩ := List.any_eq_true.1 hq
    refine ⟨t, hrun, fun hright => ?_⟩
    rw [(hright r hr).not_misdirected] at hwrong
    cases hwrong

end TransportBackEnd

end Wifu
