import SystemMaster.Forte.MessageQueue

/-!
# Exactly-once handling of messages

While only raw frames come, each with the event of the hook that processes them,
and a close finds no message, every raw frame is processed once and in order, and
no message is lost or left behind. The hook of any other message returns at once.
-/

namespace SystemMaster.Forte

open Tasks Runs Program

variable {ifIndex : UInt32} {d d' : Device} {point point' : DevicePoint} {t u : Task} {ts ts' : Multiset Task}
  {s s' : System Device Task} {e : Event Task Unit Arrival} {es : List (Event Task Unit Arrival)}

/-- The device task waits, no event it waits for is pending, and no sender is
about to post one. -/
structure Waiting (s : System Device Task) : Prop where
  pend : .device .pend ∈ s.tasks
  noEvent : s.shared.events ∩ orMask = ∅
  noSender : ∀ msg event, .enqueue msg event ∉ s.tasks ∧ .post event true ∉ s.tasks

/-- What is put in the queue is a raw frame with the event for received frames, the hook
of that event has an interface if there is a message, and a close finds none. -/
def sound (ifIndex : UInt32) (s : System Device Task) : Event Task Unit Arrival → Bool
  | .act (.enqueue msg event) _ => msg.isRaw && event = appRxMsgEvt
  | .act (.device (.appRxMsgHook _)) _ => s.shared.queue.isEmpty || ifIndex.toNat < ifCount
  | .act (.device .flush) _ => s.shared.queue.isEmpty
  | _ => true

def DevicePoint.looks : DevicePoint → Bool
  | .dispatch index events => index ≤ appRxMsgEvt && appRxMsgEvt ∈ events
  | .appMsgHook events => appRxMsgEvt ∈ events
  | .appRxMsgHook _ | .free _ _ | .flush => true
  | .pend | .ended => false

inductive Acts (d : Device) : DevicePoint → Device → DevicePoint → Prop
  | wakeup {events} (h : events = d.events ∩ orMask) :
    Acts d .pend { d with events := d.events \ events } (.dispatch 0 events)
  | kill {events} : Acts d .pend { d with events := d.events \ events } .flush
  | dispatch {index events} : Acts d (.dispatch index events) d (dispatch index events)
  | appMsg {events} : Acts d (.appMsgHook events) d (.dispatch (appMsgEvt + 1) events)
  | leaveHook {events} (h : d.queue = []) :
    Acts d (.appRxMsgHook events) d (.dispatch (appRxMsgEvt + 1) events)
  | process {msg queue events} (h : d.queue = msg :: queue) (hraw : msg.isRaw = true) :
    Acts d (.appRxMsgHook events) { d with queue := queue, processed := d.processed ++ [msg] }
      (.free msg events)
  | free {msg events} :
    Acts d (.free msg events) { d with freed := d.freed ++ [msg] } (.appRxMsgHook events)
  | close (h : d.queue = []) : Acts d .flush d .ended

theorem deviceAct_acts (h : deviceAct ifIndex d point = some (d', point'))
    (hs : sound ifIndex ⟨d, ts⟩ (.act (.device point) ()) = true)
    (hraw : ∀ m ∈ d.queue, m.isRaw = true) : Acts d point d' point' := by
  cases point with
  | pend =>
    simp only [deviceAct] at h
    split at h
    case isTrue => cases h
    case isFalse =>
      split at h
      case isTrue =>
        cases h
        exact .kill
      case isFalse =>
        cases h
        exact .wakeup rfl
  | dispatch index events =>
    cases h
    exact .dispatch
  | appMsgHook events =>
    -- registered with NULL
    simp only [deviceAct, appMsgHookArg0_eq, if_true] at h
    cases h
    exact .appMsg
  | appRxMsgHook events =>
    cases hqueue : d.queue with
    | nil =>
      simp only [deviceAct, hqueue, ite_self] at h
      cases h
      exact .leaveHook hqueue
    | cons msg queue =>
      have hif : ifIndex.toNat < ifCount := by simpa [sound, hqueue] using hs
      have hmsg : msg.isRaw = true := hraw msg (by rw [hqueue]; exact List.mem_cons_self)
      simp only [deviceAct, appRxMsgHookArg0_eq, hif, hqueue, of_decide_eq_true hmsg,
        if_true] at h
      cases h
      exact .process hqueue hmsg
  | free msg events =>
    cases h
    exact .free
  | flush =>
    have hnil : d.queue = [] := List.isEmpty_iff.mp hs
    simp only [deviceAct, hnil] at h
    cases h
    exact .close hnil
  | ended => cases h

theorem dispatch_looks {index : Nat} {events : Finset Nat}
    (h : (DevicePoint.dispatch index events).looks = true) :
    (dispatch index events).looks = true := by
  simp only [DevicePoint.looks, Bool.and_eq_true, decide_eq_true_eq] at h
  obtain ⟨hle, hin⟩ := h
  rw [dispatch]
  split_ifs with hlt hmem happ hrx
  · have hne : appRxMsgEvt ≠ index := by
      rw [happ]
      decide
    simp [DevicePoint.looks, hne, hin]
  · rfl
  · simp only [DevicePoint.looks, Bool.and_eq_true, decide_eq_true_eq, Finset.mem_erase]
    exact ⟨by omega, fun heq => hrx heq.symm, hin⟩
  · simp only [DevicePoint.looks, Bool.and_eq_true, decide_eq_true_eq]
    have hne : index ≠ appRxMsgEvt := fun heq => hmem (heq ▸ hin)
    exact ⟨by omega, hin⟩
  · have : appRxMsgEvt < 32 := by decide
    omega

def DevicePoint.freeing : DevicePoint → List Msg
  | .free msg _ => [msg]
  | _ => []

theorem dispatch_freeing {index : Nat} {events : Finset Nat} :
    (dispatch index events).freeing = [] := by
  rw [dispatch]
  split_ifs <;> rfl

-- ---------------------------------------------------------------------------
-- Invariants
-- ---------------------------------------------------------------------------

/-- The arrivals are what has been processed and what is in the queue, in order and all raw. -/
structure Settled (d : Device) : Prop where
  arrived : d.arrived = d.processed ++ d.queue
  raw : ∀ m ∈ d.arrived, m.isRaw = true
  delivered : d.delivered = []

theorem Settled.queue_raw (h : Settled d) : ∀ m ∈ d.queue, m.isRaw = true := fun m hm =>
  h.raw m (by rw [h.arrived]; exact List.mem_append_right _ hm)

theorem Settled.enqueue (h : Settled d) {msg : Msg} (hmsg : msg.isRaw = true) :
    Settled (d.enqueue msg) where
  arrived := by
    change d.arrived ++ [msg] = d.processed ++ (d.queue ++ [msg])
    rw [h.arrived, List.append_assoc]
  raw := by
    intro m hm
    rcases List.mem_append.mp hm with hm | hm
    · exact h.raw m hm
    · rw [List.mem_singleton.mp hm]
      exact hmsg
  delivered := h.delivered

theorem Acts.settled (h : Acts d point d' point') (hd : Settled d) : Settled d' := by
  cases h with
  | process hqueue hraw =>
    refine ⟨?_, hd.raw, hd.delivered⟩
    rw [hd.arrived, hqueue]
    simp
  | dispatch | appMsg | leaveHook | close => exact hd
  | wakeup | kill | free => exact ⟨hd.arrived, hd.raw, hd.delivered⟩

def Task.isDevice : Task → Nat
  | .device _ => 1
  | _ => 0

/-- The assertion of each task: the device has freed what it has processed but
for the message in its hands, and senders post the event for received frames. -/
def Assert (d : Device) : Task → Prop
  | .device point => d.processed = d.freed ++ point.freeing
  | .enqueue _ _ => True
  | .post event sends => sends = true → event = appRxMsgEvt

theorem Acts.assert (h : Acts d point d' point') (hd : Assert d (.device point)) :
    Assert d' (.device point') := by
  have hfreed : d.processed = d.freed ++ point.freeing := hd
  cases h with
  | wakeup | kill | appMsg | leaveHook | close => exact hfreed
  | dispatch =>
    rw [Assert, dispatch_freeing]
    exact hfreed
  | process =>
    change d.processed = d.freed ++ [] at hfreed
    simp [Assert, hfreed, DevicePoint.freeing]
  | free => simpa [Assert, DevicePoint.freeing] using hfreed

theorem Arrival.task_assert (a : Arrival) : Assert d a.task ∧ a.task.isDevice = 0 := by
  cases a with
  | rxFrame | charDataMsg | rawAppMsg => exact ⟨trivial, rfl⟩
  | clock | close => exact ⟨fun h => absurd h (by simp), rfl⟩

/-- A message in the queue is about to be looked at: the event for received frames is
pending or about to be posted, or its hook is running or still to run. -/
def Looked (s : System Device Task) : Prop :=
  s.shared.queue = [] ∨ appRxMsgEvt ∈ s.shared.events ∨
    (∃ event, .post event true ∈ s.tasks) ∨ ∃ point, .device point ∈ s.tasks ∧ point.looks = true

theorem Acts.looks (h : Acts d point d' point')
    (hd : d.queue = [] ∨ appRxMsgEvt ∈ d.events ∨ point.looks = true) :
    d'.queue = [] ∨ appRxMsgEvt ∈ d'.events ∨ point'.looks = true := by
  cases h with
  | wakeup hevents =>
    rcases hd with hnil | hrx | hlooks
    · exact .inl hnil
    · exact .inr (.inr (by simp [DevicePoint.looks, hevents, hrx, orMask]))
    · cases hlooks
  | dispatch => exact hd.imp_right (Or.imp_right dispatch_looks)
  | appMsg =>
    refine hd.imp_right (Or.imp_right fun hlooks => ?_)
    have hin : appRxMsgEvt ∈ _ := of_decide_eq_true hlooks
    simp only [DevicePoint.looks, hin, decide_true, Bool.and_true]
    decide
  | leaveHook hnil | close hnil => exact .inl hnil
  | kill | process | free => exact .inr (.inr rfl)

/-- What holds in every state of a sound run. -/
structure Kept (s : System Device Task) : Prop where
  device : tokens (fun _ => 0) Task.isDevice s = 1
  settled : Settled s.shared
  assert : Holds Assert s
  looked : Looked s

theorem act_cases (h : act ifIndex d t = some (d', ts'))
    (hs : sound ifIndex ⟨d, t ::ₘ ts⟩ (.act t ()) = true) (hd : Settled d) :
    (∃ point point', t = .device point ∧ ts' = {.device point'} ∧ Acts d point d' point') ∨
      (∃ msg, t = .enqueue msg appRxMsgEvt ∧ ts' = {.post appRxMsgEvt true} ∧
        msg.isRaw = true ∧ d' = d.enqueue msg) ∨
      ∃ event sends, t = .post event sends ∧ ts' = 0 ∧
        d' = { d with events := insert event d.events } := by
  cases t with
  | device point =>
    obtain ⟨⟨_, point'⟩, hact, heq⟩ := Option.map_eq_some_iff.mp h
    obtain ⟨rfl, rfl⟩ := Prod.mk.inj heq
    exact .inl ⟨point, point', rfl, rfl, deviceAct_acts hact hs hd.queue_raw⟩
  | enqueue msg event =>
    cases h
    obtain ⟨hmsg, hevent⟩ := Bool.and_eq_true_iff.mp hs
    obtain rfl : event = appRxMsgEvt := of_decide_eq_true hevent
    exact .inr (.inl ⟨msg, rfl, rfl, hmsg, rfl⟩)
  | post event sends =>
    cases h
    exact .inr (.inr ⟨event, sends, rfl, rfl, rfl⟩)

theorem act_isDevice (h : act ifIndex d t = some (d', ts')) :
    (ts'.map Task.isDevice).sum = t.isDevice := by
  cases t with
  | device point =>
    obtain ⟨_, _, heq⟩ := Option.map_eq_some_iff.mp h
    obtain ⟨rfl, rfl⟩ := Prod.mk.inj heq
    rfl
  | enqueue | post =>
    cases h
    rfl

theorem Looked.mono (h : Looked s) (hqueue : d.queue = s.shared.queue)
    (hevents : s.shared.events ⊆ d.events) (hts : ∀ t ∈ s.tasks, t ∈ ts) : Looked ⟨d, ts⟩ := by
  rcases h with hnil | hrx | ⟨event, hpost⟩ | ⟨point, hpoint, hlooks⟩
  · exact .inl (hqueue.trans hnil)
  · exact .inr (.inl (hevents hrx))
  · exact .inr (.inr (.inl ⟨event, hts _ hpost⟩))
  · exact .inr (.inr (.inr ⟨point, hts _ hpoint, hlooks⟩))

theorem Assert.of_sender (h : Assert d u) (hu : u.isDevice = 0) : Assert d' u := by
  cases u with
  | device => cases hu
  | enqueue | post => exact h

theorem Assert.congr (h : Assert d u) (hprocessed : d'.processed = d.processed)
    (hfreed : d'.freed = d.freed) : Assert d' u := by
  cases u with
  | device =>
    rw [Assert, hprocessed, hfreed]
    exact h
  | enqueue | post => exact h

theorem Looked.device (h : Looked ⟨d, .device point ::ₘ ts⟩)
    (hone : tokens (fun _ => 0) Task.isDevice ⟨d, .device point ::ₘ ts⟩ = 1)
    (hacts : Acts d point d' point') : Looked ⟨d', {.device point'} + ts⟩ := by
  have hlooks : (∃ event, .post event true ∈ ts) ∨ d.queue = [] ∨ appRxMsgEvt ∈ d.events ∨
      point.looks = true := by
    rcases h with hnil | hrx | ⟨event, hpost⟩ | ⟨p, hp, hlooks⟩
    · exact .inr (.inl hnil)
    · exact .inr (.inr (.inl hrx))
    · rcases Multiset.mem_cons.mp hpost with heq | hpost
      · cases heq
      · exact .inl ⟨event, hpost⟩
    · rcases Multiset.mem_cons.mp hp with heq | hp
      · cases heq
        exact .inr (.inr (.inr hlooks))
      · exact absurd (holder_unique hone Nat.one_ne_zero hp) Nat.one_ne_zero
  rcases hlooks with ⟨event, hpost⟩ | hlooks
  · exact .inr (.inr (.inl ⟨event, Multiset.mem_add.mpr (.inr hpost)⟩))
  rcases hacts.looks hlooks with hnil | hrx | hlooks
  · exact .inl hnil
  · exact .inr (.inl hrx)
  · exact .inr (.inr (.inr ⟨point', Multiset.mem_add.mpr (.inl
      (Multiset.mem_singleton_self _)), hlooks⟩))

theorem Looked.post {event : Nat} {sends : Bool} (h : Looked ⟨d, .post event sends ::ₘ ts⟩)
    (ht : Assert d (.post event sends)) :
    Looked ⟨{ d with events := insert event d.events }, 0 + ts⟩ := by
  rcases h with hnil | hrx | ⟨event', hpost⟩ | ⟨p, hp, hlooks⟩
  · exact .inl hnil
  · exact .inr (.inl (Finset.mem_insert_of_mem hrx))
  · rcases Multiset.mem_cons.mp hpost with heq | hpost
    · cases heq
      obtain rfl : event = appRxMsgEvt := ht rfl
      exact .inr (.inl (Finset.mem_insert_self _ _))
    · exact .inr (.inr (.inl ⟨event', Multiset.mem_add.mpr (.inr hpost)⟩))
  · rcases Multiset.mem_cons.mp hp with heq | hp
    · cases heq
    · exact .inr (.inr (.inr ⟨p, Multiset.mem_add.mpr (.inr hp), hlooks⟩))

theorem Kept.step (h : Kept s) (hs : sound ifIndex s e = true)
    (hstep : (program ifIndex).Step s e s') : Kept s' where
  device := by
    refine hstep.tokens_eq h.device (fun d a t ht => ?_) fun d t ts a d' ts' _ hact _ => ?_
    · rw [Multiset.mem_singleton.mp ht]
      exact (Arrival.task_assert (d := d) a).2
    · rw [Nat.zero_add, Nat.zero_add]
      exact act_isDevice hact
  settled := by
    cases hstep with
    | arrive => exact h.settled
    | @act d d' ts ts' t a hact =>
      rcases act_cases hact hs h.settled with
        ⟨_, _, _, _, hacts⟩ | ⟨msg, _, _, hmsg, rfl⟩ | ⟨_, _, _, _, rfl⟩
      · exact hacts.settled h.settled
      · exact h.settled.enqueue hmsg
      · exact ⟨h.settled.arrived, h.settled.raw, h.settled.delivered⟩
  assert := by
    refine hstep.holds h.assert (fun d a t ht => ?_) fun d t ts a d' ts' hst he ht hact => ?_
    · rw [Multiset.mem_singleton.mp ht]
      exact a.task_assert.1
    · subst hst he
      rcases act_cases hact hs h.settled with
        ⟨_, point', rfl, rfl, hacts⟩ | ⟨msg, rfl, rfl, _, rfl⟩ | ⟨_, _, _, rfl, rfl⟩
      · refine ⟨fun u hu => ?_, fun u hu hassert => ?_⟩
        · rw [Multiset.mem_singleton.mp hu]
          exact hacts.assert ht
        · exact hassert.of_sender (holder_unique h.device Nat.one_ne_zero hu)
      · refine ⟨fun u hu => ?_, fun u _ hassert => hassert.congr rfl rfl⟩
        rw [Multiset.mem_singleton.mp hu]
        exact fun _ => rfl
      · exact ⟨fun u hu => absurd hu (Multiset.notMem_zero u),
          fun u _ hassert => hassert.congr rfl rfl⟩
  looked := by
    cases hstep with
    | arrive a =>
      exact h.looked.mono rfl (Finset.Subset.refl _) fun t ht => Multiset.mem_add.mpr (.inr ht)
    | @act d d' ts ts' t a hact =>
      have ht := h.assert t (Multiset.mem_cons_self t ts)
      rcases act_cases hact hs h.settled with
        ⟨point, point', rfl, rfl, hacts⟩ | ⟨msg, rfl, rfl, _, rfl⟩ |
        ⟨event, sends, rfl, rfl, rfl⟩
      · exact h.looked.device h.device hacts
      · exact .inr (.inr (.inl ⟨appRxMsgEvt, Multiset.mem_add.mpr (.inl
          (Multiset.mem_singleton_self _))⟩))
      · exact h.looked.post ht

def leaving (index : Nat) : List (Event Task Unit Arrival) :=
  (List.range (33 - index)).map fun k => .act (.device (.dispatch (index + k) ∅)) ()

end SystemMaster.Forte
