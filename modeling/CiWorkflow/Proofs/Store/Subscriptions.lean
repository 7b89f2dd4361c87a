import CiWorkflow.Proofs.Store.Atomicity
import Mathlib.Data.Finset.Card
import Mathlib.Data.Finset.Range

/-! Subscriptions and their handles, which may be called at any time and any number of times, also
by those who are being told of a change. A listener is never registered more often than it has
subscriptions whose handles were not called. It is registered that often all the time just if no
handle is called again while its listener still has such a subscription, since that call ends the
other one. -/

set_option autoImplicit false

namespace CiWorkflow

/-- What changes the registrations of a store. Handles are numbered as their subscriptions are, from
0 on. -/
inductive Act where
  | subscribe (l : Listener)
  | call (handle : Nat)
  deriving DecidableEq

/-- What was done to the registrations, the latest act first. -/
abbrev History := List Act

namespace History

/-- Who subscribed, the first subscription first. -/
def subscribers : History → List Listener
  | [] => []
  | .subscribe l :: earlier => subscribers earlier ++ [l]
  | .call _ :: earlier => subscribers earlier

/-- Who is registered. A handle ends the first registration of its listener, if one is left. -/
def registered : History → List Listener
  | [] => []
  | .subscribe l :: earlier => registered earlier ++ [l]
  | .call handle :: earlier => match (subscribers earlier)[handle]? with
    | some l => (registered earlier).erase l
    | none => registered earlier

/-- The handles of a listener's subscriptions that were not called. -/
def live (h : History) (l : Listener) : Finset Nat :=
  (Finset.range h.subscribers.length).filter fun handle =>
    h.subscribers[handle]? = some l ∧ .call handle ∉ h

def Sound : History → Prop
  | [] => True
  | .subscribe _ :: earlier => Sound earlier
  | .call handle :: earlier => handle < (subscribers earlier).length ∧ Sound earlier

/-- A listener is registered once for each subscription whose handle was not called. -/
def Balanced (h : History) : Prop := ∀ l, h.registered.count l = (h.live l).card

/-- A handle was called again only when its listener had no subscription left. -/
def Sparing (h : History) : Prop :=
  ∀ handle earlier l, .call handle :: earlier <:+ h → .call handle ∈ earlier →
    (subscribers earlier)[handle]? = some l → live earlier l = ∅

def latest? (l : Listener) : History → Option Nat
  | [] => none
  | .subscribe x :: earlier =>
    if x = l then some (subscribers earlier).length else latest? l earlier
  | .call _ :: earlier => latest? l earlier

section
variable {h : History} {handle : Nat} {l x : Listener}

theorem mem_live : handle ∈ h.live l ↔ h.subscribers[handle]? = some l ∧ .call handle ∉ h := by
  rw [live, Finset.mem_filter, Finset.mem_range, and_iff_right_iff_imp]
  exact fun found => (List.getElem?_eq_some_iff.1 found.1).1

theorem Sound.lt_of_call (sound : h.Sound) (called : .call handle ∈ h) :
    handle < h.subscribers.length := by
  induction h with
  | nil => simp at called
  | cons a earlier ih =>
    cases a with
    | subscribe l =>
      have before := ih sound (by simpa using called)
      rw [subscribers, List.length_append]
      omega
    | call n =>
      rcases List.mem_cons.1 called with same | called
      · obtain rfl := Act.call.inj same
        exact sound.1
      · exact ih sound.2 called

theorem Sound.of_suffix {earlier : History} (sound : h.Sound) (past : earlier <:+ h) :
    earlier.Sound := by
  induction h with
  | nil => rwa [List.suffix_nil.1 past]
  | cons a rest ih =>
    rcases List.suffix_cons_iff.1 past with rfl | before
    · exact sound
    · cases a with
      | subscribe l => exact ih sound before
      | call n => exact ih sound.2 before

/-- A new subscription is live, and the other ones are as they were. -/
theorem live_subscribe (sound : h.Sound) :
    live (.subscribe x :: h) l =
      if x = l then insert h.subscribers.length (h.live l) else h.live l := by
  have fresh : .call h.subscribers.length ∉ h := fun called =>
    Nat.lt_irrefl _ (sound.lt_of_call called)
  ext handle
  rw [mem_live, subscribers, List.getElem?_append]
  by_cases old : handle < h.subscribers.length
  · have other : handle ≠ h.subscribers.length := Nat.ne_of_lt old
    split_ifs <;> simp [mem_live, other]
  · by_cases new : handle = h.subscribers.length
    · subst new
      by_cases same : x = l <;> simp [mem_live, same, fresh]
    · have beyond : 0 < handle - h.subscribers.length := by omega
      by_cases same : x = l <;> simp [mem_live, same, new, old, beyond.ne']

/-- A call ends the subscription of its handle, if that is live. -/
theorem live_call : live (.call handle :: h) l = (h.live l).erase handle := by
  ext n
  rw [mem_live, Finset.mem_erase, mem_live, subscribers, List.mem_cons, not_or, Act.call.injEq]
  tauto

theorem notMem_live_of_called (called : .call handle ∈ h) : handle ∉ h.live l :=
  fun mem => (mem_live.1 mem).2 called

theorem notMem_live_of_ne (found : h.subscribers[handle]? = some x) (other : x ≠ l) :
    handle ∉ h.live l := by
  intro mem
  rw [(mem_live.1 mem).1] at found
  exact other (Option.some.inj found).symm

theorem count_subscribe :
    (registered (.subscribe x :: h)).count l = h.registered.count l + if x = l then 1 else 0 := by
  rw [registered, List.count_append, List.count_singleton]
  by_cases same : x = l <;> simp [same]

theorem card_live_subscribe (sound : h.Sound) :
    (live (.subscribe x :: h) l).card = (h.live l).card + if x = l then 1 else 0 := by
  rw [live_subscribe sound]
  split
  · refine Finset.card_insert_of_notMem fun mem => ?_
    exact absurd (List.getElem?_eq_some_iff.1 (mem_live.1 mem).1).1 (Nat.lt_irrefl _)
  · rfl

theorem registered_call (found : h.subscribers[handle]? = some x) :
    registered (.call handle :: h) = h.registered.erase x := by
  rw [registered, found]

theorem count_call_of_ne (found : h.subscribers[handle]? = some x) (other : x ≠ l) :
    (registered (.call handle :: h)).count l = h.registered.count l ∧
      live (.call handle :: h) l = h.live l := by
  rw [registered_call found, live_call, List.count_erase_of_ne other.symm,
    Finset.erase_eq_of_notMem (notMem_live_of_ne found other)]
  exact ⟨rfl, rfl⟩

end

theorem count_registered_le {h : History} (sound : h.Sound) (l : Listener) :
    h.registered.count l ≤ (h.live l).card := by
  induction h with
  | nil => exact Nat.zero_le _
  | cons a earlier ih =>
    cases a with
    | subscribe x =>
      have before : Sound earlier := sound
      rw [count_subscribe, card_live_subscribe before]
      exact Nat.add_le_add_right (ih before) _
    | call handle =>
      obtain ⟨old, sound⟩ := sound
      have before := ih sound
      have found := List.getElem?_eq_getElem old
      generalize (subscribers earlier)[handle] = x at found
      by_cases same : x = l
      · subst same
        rw [registered_call found, live_call, List.count_erase_self]
        exact (Nat.sub_le_sub_right before 1).trans Finset.pred_card_le_card_erase
      · obtain ⟨count, live⟩ := count_call_of_ne found same
        rwa [count, live]

/-- One act keeps the balance, unless it is a call that was made before and finds another
subscription of its listener. -/
theorem balanced_cons_iff {h : History} {a : Act} (sound : Sound (a :: h)) (balanced : h.Balanced) :
    Balanced (a :: h) ↔ ∀ handle l, a = .call handle → a ∈ h → h.subscribers[handle]? = some l →
      h.live l = ∅ := by
  cases a with
  | subscribe x =>
    have before : Sound h := sound
    refine iff_of_true (fun l => ?_) nofun
    rw [count_subscribe, card_live_subscribe before, balanced l]
  | call handle =>
    obtain ⟨old, -⟩ := sound
    have found := List.getElem?_eq_getElem old
    generalize h.subscribers[handle] = x at found
    have ended : (registered (.call handle :: h)).count x = (h.live x).card - 1 := by
      rw [registered_call found, List.count_erase_self, balanced x]
    constructor
    · rintro after n l same called who
      obtain rfl := Act.call.inj same
      obtain rfl : x = l := Option.some.inj (found.symm.trans who)
      have kept := after x
      rw [ended, live_call, Finset.erase_eq_of_notMem (notMem_live_of_called called)] at kept
      exact Finset.card_eq_zero.1 (by omega)
    · intro spared l
      by_cases same : x = l
      · subst same
        rw [ended, live_call]
        by_cases called : .call handle ∈ h
        · simp [spared handle x rfl called found]
        · rw [Finset.card_erase_of_mem (mem_live.2 ⟨found, called⟩)]
      · obtain ⟨count, live⟩ := count_call_of_ne found same
        rw [count, live, balanced l]

/-- The balance is kept all the time just if each handle spares the other subscriptions. -/
theorem balanced_iff_sparing {h : History} (sound : h.Sound) :
    (∀ earlier, earlier <:+ h → Balanced earlier) ↔ h.Sparing := by
  induction h with
  | nil =>
    refine iff_of_true (fun earlier past => ?_) fun handle earlier l past => ?_
    · rw [List.suffix_nil.1 past]
      exact fun l => rfl
    · exact absurd (List.suffix_nil.1 past) (List.cons_ne_nil _ _)
  | cons a h ih =>
    have before := ih (sound.of_suffix (List.suffix_cons a h))
    constructor
    · intro all handle earlier l past called who
      have balanced := all earlier ((List.suffix_cons _ _).trans past)
      exact (balanced_cons_iff (sound.of_suffix past) balanced).1 (all _ past) handle l rfl called
        who
    · intro sparing earlier past
      have rest := before.2 fun handle earlier l past =>
        sparing handle earlier l (past.trans (List.suffix_cons a h))
      rcases List.suffix_cons_iff.1 past with rfl | past
      · refine (balanced_cons_iff sound (rest h List.suffix_rfl)).2 ?_
        rintro handle l rfl called who
        exact sparing handle h l List.suffix_rfl called who
      · exact rest earlier past

theorem exists_latest {h : History} {l : Listener} (among : l ∈ h.subscribers) :
    ∃ handle, h.latest? l = some handle ∧ h.subscribers[handle]? = some l := by
  induction h with
  | nil => simp [subscribers] at among
  | cons a earlier ih =>
    cases a with
    | subscribe x =>
      by_cases same : x = l
      · subst same
        exact ⟨(subscribers earlier).length, if_pos rfl, by simp [subscribers]⟩
      · rw [subscribers, List.mem_append, List.mem_singleton] at among
        obtain ⟨handle, latest, found⟩ := ih (among.resolve_right (Ne.symm same))
        refine ⟨handle, by rw [latest?, if_neg same, latest], ?_⟩
        rw [subscribers, List.getElem?_append_left (List.getElem?_eq_some_iff.1 found).1, found]
    | call n => exact ih among

theorem subscribed_of_registered {h : History} {l : Listener} (among : l ∈ h.registered) :
    l ∈ h.subscribers := by
  induction h with
  | nil => exact among
  | cons a earlier ih =>
    cases a with
    | subscribe x =>
      rw [registered, List.mem_append] at among
      exact List.mem_append.2 (among.imp_left ih)
    | call handle =>
      rw [registered] at among
      split at among
      · exact ih (List.mem_of_mem_erase among)
      · exact ih among

end History

/-- An operation that is neither a subscription nor the end of one. -/
def Operation.isOther : Operation → Bool
  | .subscribe _ | .unsubscribe _ => false
  | _ => true

structure Ledger where
  store : Store
  history : History

inductive Move where
  | act (a : Act)
  /-- Another operation. Those who are told of it act in the meantime: the first one as the first
  list says, and so on. -/
  | perform (op : Operation) (other : op.isOther = true) (acts : List (List Act))

namespace Ledger

/-- A handle that there is not yet cannot be called. -/
def act (d : Ledger) : Act → Ledger
  | .subscribe l => ⟨(d.store.step (.subscribe l)).store, .subscribe l :: d.history⟩
  | .call handle => match d.history.subscribers[handle]? with
    | some l => ⟨(d.store.step (.unsubscribe l)).store, .call handle :: d.history⟩
    | none => d

/-- Whoever ends a registration of its own calls its latest handle. -/
def endOwn (d : Ledger) (l : Listener) : Ledger :=
  match d.history.latest? l with
  | some handle => d.act (.call handle)
  | none => d

/-- Tells one after the other, each of whom may act. The first that fails ends it. -/
def tellAll : List Listener → List (List Act) → Ledger → Ledger
  | [], _, d => d
  | l :: rest, acts, d =>
    let d := (acts.headD []).foldl act d
    if l.raises then d else tellAll rest acts.tail (if l.once then d.endOwn l else d)

def perform (d : Ledger) (op : Operation) (acts : List (List Act)) : Ledger :=
  let a := d.store.attempt op
  match a.ending with
  | .refused _ => { d with store := { d.store with drawn := a.drawn } }
  | .quiet _ s => { d with store := s }
  | .changed _ s => tellAll s.listeners acts { d with store := s }

def move (d : Ledger) : Move → Ledger
  | .act a => d.act a
  | .perform op _ acts => d.perform op acts

def after (d : Ledger) : List Move → Ledger
  | [] => d
  | m :: moves => (d.move m).after moves

structure Kept (d : Ledger) : Prop where
  sound : d.history.Sound
  registered : d.store.listeners = d.history.registered

section
variable {d : Ledger}

theorem kept_act (kept : d.Kept) (a : Act) : (d.act a).Kept := by
  obtain ⟨sound, registered⟩ := kept
  cases a with
  | subscribe l => exact ⟨sound, congrArg (· ++ [l]) registered⟩
  | call handle =>
    rw [act]
    split
    · rename_i l found
      refine ⟨⟨(List.getElem?_eq_some_iff.1 found).1, sound⟩, ?_⟩
      rw [History.registered_call found, ← registered]
      rfl
    · exact ⟨sound, registered⟩

theorem kept_acts (kept : d.Kept) (acts : List Act) : (acts.foldl act d).Kept := by
  induction acts generalizing d with
  | nil => exact kept
  | cons a rest ih => exact ih (kept_act kept a)

theorem kept_endOwn (kept : d.Kept) (l : Listener) : (d.endOwn l).Kept := by
  rw [endOwn]
  split
  · exact kept_act kept _
  · exact kept

theorem kept_tellAll (kept : d.Kept) (told : List Listener) (acts : List (List Act)) :
    (tellAll told acts d).Kept := by
  induction told generalizing d acts with
  | nil => exact kept
  | cons l rest ih =>
    have acted := kept_acts kept (acts.headD [])
    rw [tellAll]
    split
    · exact acted
    · refine ih ?_ acts.tail
      split
      · exact kept_endOwn acted l
      · exact acted

/-- Only a subscription and the call of a handle change registrations without a telling. -/
theorem listeners_of_quiet {s s' : Store} {op : Operation} {answer : Answer}
    (other : op.isOther = true) (ending : (s.attempt op).ending = .quiet answer s') :
    s'.listeners = s.listeners := by
  have ends := s.ends_attempt op
  rw [ending] at ends
  generalize op.changes s = changes at ends
  cases ends with
  | quiet answer => cases op <;> first | rfl | exact absurd other Bool.false_ne_true

theorem kept_perform (kept : d.Kept) {op : Operation} (other : op.isOther = true)
    (acts : List (List Act)) : (d.perform op acts).Kept := by
  simp only [perform]
  split
  · exact ⟨kept.sound, kept.registered⟩
  · rename_i ending
    exact ⟨kept.sound, (listeners_of_quiet other ending).trans kept.registered⟩
  · rename_i ending
    refine kept_tellAll ?_ _ _
    exact ⟨kept.sound, (Store.changed_of_ending ending).2.trans kept.registered⟩

theorem kept_after (kept : d.Kept) (moves : List Move) : (d.after moves).Kept := by
  induction moves generalizing d with
  | nil => exact kept
  | cons m rest ih =>
    cases m with
    | act a => exact ih (kept_act kept a)
    | perform op other acts => exact ih (kept_perform kept other acts)

/-- Someone with a subscription ends a registration of its own by the call of a handle. -/
theorem endOwn_of_subscribed {l : Listener} (among : l ∈ d.history.subscribers) :
    (d.endOwn l).store = { d.store with listeners := d.store.listeners.erase l } ∧
      (d.endOwn l).history.subscribers = d.history.subscribers := by
  obtain ⟨handle, latest, found⟩ := History.exists_latest among
  have called :
      d.endOwn l = ⟨(d.store.step (.unsubscribe l)).store, .call handle :: d.history⟩ := by
    simp only [endOwn, latest, act, found]
  rw [called]
  exact ⟨rfl, rfl⟩

theorem tellAll_nil (document : String) {told : List Listener}
    (among : ∀ l ∈ told, l ∈ d.history.subscribers) :
    (tellAll told [] d).store =
      { d.store with listeners := (tell document told d.store.listeners).listeners } := by
  induction told generalizing d with
  | nil => rfl
  | cons l rest ih =>
    rw [List.forall_mem_cons] at among
    simp only [tellAll, tell, List.headD_nil, List.foldl_nil, List.tail_nil]
    by_cases raises : l.raises = true
    · rw [if_pos raises, if_pos raises]
    · rw [if_neg raises, if_neg raises]
      by_cases once : l.once = true
      · obtain ⟨store, subscribers⟩ := endOwn_of_subscribed among.1
        rw [if_pos once, if_pos once, ih (subscribers.symm ▸ among.2), store]
      · rw [if_neg once, if_neg once, ih among.2]

/-- Where no one acts but as its listener says, an operation is carried out as in a store. -/
theorem perform_nil (kept : d.Kept) (op : Operation) :
    (d.perform op []).store = (d.store.step op).store := by
  cases ending : (d.store.attempt op).ending with
  | refused error => simp only [perform, Store.step, ending]
  | quiet answer s => simp only [perform, Store.step, ending]
  | changed answer s =>
    have registered := (Store.changed_of_ending ending).2.trans kept.registered
    simp only [perform, Store.step, ending, Store.told]
    refine tellAll_nil s.render fun l told => ?_
    exact History.subscribed_of_registered (registered ▸ told)

def start (mode : Mode) (container : Container) (pages : Pages) (drawn : Nat) : Ledger :=
  ⟨.start mode container pages drawn, []⟩

theorem kept_start (mode : Mode) (container : Container) (pages : Pages) (drawn : Nat) :
    (start mode container pages drawn).Kept := ⟨trivial, rfl⟩

end

/-- The registrations depend on nothing but subscriptions and calls of handles, and operations
change them just as the listeners they tell do. No listener is registered more often than it has
subscriptions whose handles were not called. It has been registered that often all the time just if
no handle was called again while its listener had such a subscription. -/
theorem registrations_balanced_iff (mode : Mode) (container : Container) (pages : Pages)
    (drawn : Nat) (moves : List Move) :
    let d := (start mode container pages drawn).after moves
    (∀ op, (d.perform op []).store = (d.store.step op).store) ∧
    d.store.listeners = d.history.registered ∧
    (∀ l, d.store.listeners.count l ≤ (d.history.live l).card) ∧
    ((∀ h : History, h <:+ d.history → h.Balanced) ↔ d.history.Sparing) := by
  intro d
  have kept : d.Kept := kept_after (kept_start mode container pages drawn) moves
  refine ⟨perform_nil kept, kept.registered, fun l => ?_, History.balanced_iff_sparing kept.sound⟩
  rw [kept.registered]
  exact History.count_registered_le kept.sound l

/-- A listener that subscribed twice is not registered any more after two calls of one handle. -/
theorem not_balanced_repeated :
    let l : Listener := ⟨"a", false, false⟩
    let d := (start .docker .sample .initial 0).after
      [.act (.subscribe l), .act (.subscribe l), .act (.call 1), .act (.call 1)]
    d.history.live l = {0} ∧ d.store.listeners.count l = 0 := by
  decide

end Ledger
end CiWorkflow
