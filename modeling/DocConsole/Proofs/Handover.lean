import DocConsole.Connection
import Mathlib.Data.List.Nodup
import Mathlib.Data.List.Perm.Basic

/-!
# Connecting while a store is being closed

Closing a store may take its time, and the call that closes it waits.  A call that connects a store
takes the current one out, waits until it is closed and only then puts its own in, so that in the
meantime nothing is connected.  A second call finds nothing to close then and puts its store in at
once, and when the first call goes on, it puts its store in the place of that one.  Main statement:
no store is ever closed twice, and of the stores that were put in exactly those that a waiting call
found in its way are never closed.
-/

set_option autoImplicit false

namespace DocConsole

/-! ## Calls that wait -/

/-- A call that waits for a store to be closed. -/
structure Closing where
  /-- The store that is being closed. -/
  store : String
  /-- The store to put in afterwards, if the call is to connect one. -/
  next : Option String
  deriving DecidableEq, Repr

/-- A connection with the calls that wait. -/
structure Handover where
  /-- The connection. -/
  connection : Connection
  /-- The waiting calls, in the order in which they started. -/
  waiting : List Closing
  /-- The stores that were put in so far. -/
  installed : List String
  /-- The stores that have been closed. -/
  closed : List String
  deriving DecidableEq, Repr

/-- What happens to a connection: calls start, and closings come to their end. -/
inductive HandoverEvent where
  /-- A call to connect a store starts. -/
  | connect (name : String)
  /-- A call to disconnect starts. -/
  | disconnect
  /-- The store of a waiting call has been closed, and the call goes on. -/
  | closed (index : Nat)
  deriving DecidableEq, Repr

/-- The store that a starting call is to connect. -/
def HandoverEvent.connects? : HandoverEvent → Option String
  | .connect name => some name
  | _ => none

namespace Handover

/-- A connection with at most one store, and no calls. -/
def opened (first : Option String) : Handover where
  connection :=
    match first with
    | some name => (Connection.initial.mention name).install name
    | none => .initial
  waiting := []
  installed := first.toList
  closed := []

/-- The end of a call: it puts its store in, if it has one. -/
def finish (h : Handover) : Option String → Handover
  | some name =>
      { h with
        connection := h.connection.install name
        installed := h.installed ++ [name] }
  | none => h

/-- The start of a call: it takes the current store out and waits until this is closed; it does not
wait when there is none.  A store refuses calls as soon as its closing starts. -/
def start (h : Handover) (next : Option String) : Handover :=
  match h.connection.detach with
  | (connection, some old) =>
      { h with
        connection := connection.close old
        waiting := h.waiting ++ [⟨old, next⟩] }
  | (connection, none) => { h with connection := connection }.finish next

/-- The end of a closing; the call that waited is at work again. -/
def settle (h : Handover) (index : Nat) (closing : Closing) : Handover :=
  { h with
    waiting := h.waiting.eraseIdx index
    closed := h.closed ++ [closing.store] }

/-- What an event does. -/
def handle (h : Handover) : HandoverEvent → Handover
  | .connect name => { h with connection := h.connection.mention name }.start (some name)
  | .disconnect => h.start none
  | .closed index =>
      match h.waiting[index]? with
      | some closing => (h.settle index closing).finish closing.next
      | none => h

/-- A connection after events. -/
def after (h : Handover) (events : List HandoverEvent) : Handover :=
  events.foldl handle h

/-- A call that finds no store ends at once. -/
theorem start_of_none {h : Handover} (hcurrent : h.connection.current = none)
    (next : Option String) : h.start next = h.finish next := by
  obtain ⟨⟨stores, current⟩, waiting, installed, closed⟩ := h
  subst hcurrent
  rfl

/-- A call that finds a store waits until it is closed. -/
theorem start_of_some {h : Handover} {old : String} (hcurrent : h.connection.current = some old)
    (next : Option String) :
    h.start next =
      { h with
        connection := { h.connection with current := none }.close old
        waiting := h.waiting ++ [⟨old, next⟩] } := by
  rw [start, Connection.detach, hcurrent]

/-- A call that nothing comes between connects its store in the place of the current one, or just
disconnects this. -/
theorem connection_start_alone {h : Handover} (hidle : h.waiting = []) (next : Option String) :
    ((h.start next).handle (.closed 0)).connection =
      match next with
      | some name => h.connection.connect name
      | none => h.connection.disconnect := by
  obtain ⟨⟨stores, current⟩, waiting, installed, closed⟩ := h
  subst hidle
  cases current with
  | none => cases next <;> rfl
  | some old => cases next <;> rfl

/-! ## Stores that are lost -/

/-- The stores that were closed or are being closed. -/
def closings (h : Handover) : List String :=
  h.closed ++ h.waiting.map Closing.store

/-- The stores that waiting calls are to connect. -/
def pending (h : Handover) : List String :=
  h.waiting.filterMap Closing.next

/-- The store that is pushed out when a call ends and puts its own in. -/
def pushedOut (h : Handover) : Option String → List String
  | some _ => h.connection.current.toList
  | none => []

/-- The store that an event pushes out, in whose place a call that waited puts its own. -/
def displaced (h : Handover) : HandoverEvent → List String
  | .closed index =>
      match h.waiting[index]? with
      | some closing => h.pushedOut closing.next
      | none => []
  | _ => []

/-- The stores that events push out. -/
def lost (h : Handover) : List HandoverEvent → List String
  | [] => []
  | event :: rest => h.displaced event ++ (h.handle event).lost rest

/-- Calls that connect do not overlap: none starts while another one waits. -/
def OneAtATime (h : Handover) : List HandoverEvent → Prop
  | [] => True
  | event :: rest => (event.connects?.isSome → h.pending = []) ∧ (h.handle event).OneAtATime rest

end Handover

/-! ## Which stores are open -/

namespace Connection

/-- The flag of a name is the one of its first entry. -/
theorem lookup_cons_eq (name : String) (isOpen : Bool) (rest : List (String × Bool))
    (name' : String) :
    ((name, isOpen) :: rest).lookup name' =
      if name' = name then some isOpen else rest.lookup name' := by
  by_cases hsame : name' = name
  · rw [if_pos hsame, hsame, List.lookup_cons_self]
  · rw [if_neg hsame, List.lookup_cons, beq_false_of_ne hsame]

/-- A new store is open, and every other one stays as it is. -/
theorem lookup_mention {c : Connection} {name : String} (hnew : c.stores.lookup name = none)
    (name' : String) :
    (c.mention name).stores.lookup name' =
      if name' = name then some true else c.stores.lookup name' := by
  obtain ⟨stores, current⟩ := c
  show (mention.insert name stores).lookup name' =
    if name' = name then some true else stores.lookup name'
  replace hnew : stores.lookup name = none := hnew
  induction stores with
  | nil => exact lookup_cons_eq name true [] name'
  | cons entry rest ih =>
      obtain ⟨other, isOpen⟩ := entry
      rw [lookup_cons_eq] at hnew
      have hother : ¬ other = name := by
        rintro rfl
        rw [if_pos rfl] at hnew
        cases hnew
      rw [if_neg (Ne.symm hother)] at hnew
      rw [mention.insert, if_neg hother]
      split
      · exact lookup_cons_eq name true _ name'
      · rw [lookup_cons_eq, lookup_cons_eq, ih hnew]
        by_cases hfirst : name' = other
        · rw [if_pos hfirst, if_pos hfirst, if_neg (hfirst ▸ hother)]
        · rw [if_neg hfirst, if_neg hfirst]

/-- A closed store is not open any more, and every other one stays as it is. -/
theorem lookup_close (c : Connection) (name name' : String) :
    (c.close name).stores.lookup name' =
      (c.stores.lookup name').map (fun isOpen => if name' = name then false else isOpen) := by
  show List.lookup name' (c.stores.map fun entry =>
    if entry.1 = name then (entry.1, false) else entry) = _
  induction c.stores with
  | nil => rfl
  | cons entry rest ih =>
      obtain ⟨other, isOpen⟩ := entry
      rw [List.map_cons, lookup_cons_eq]
      by_cases hclosed : other = name
      · rw [if_pos hclosed, lookup_cons_eq, ih]
        by_cases hfirst : name' = other
        · rw [if_pos hfirst, if_pos hfirst, Option.map_some, if_pos (hfirst.trans hclosed)]
        · rw [if_neg hfirst, if_neg hfirst]
      · rw [if_neg hclosed, lookup_cons_eq, ih]
        by_cases hfirst : name' = other
        · rw [if_pos hfirst, if_pos hfirst, Option.map_some, if_neg (hfirst ▸ hclosed)]
        · rw [if_neg hfirst, if_neg hfirst]

end Connection

/-! ## Where every store is -/

namespace Handover

variable {h : Handover} {next : Option String} {lost seen : List String}

theorem closings_finish (h : Handover) (next : Option String) :
    (h.finish next).closings = h.closings := by
  cases next <;> rfl

theorem pending_finish (h : Handover) (next : Option String) :
    (h.finish next).pending = h.pending := by
  cases next <;> rfl

theorem closings_start_of_some {old : String} (hcurrent : h.connection.current = some old)
    (next : Option String) : (h.start next).closings = h.closings ++ [old] := by
  rw [start_of_some hcurrent, closings, List.map_append, ← List.append_assoc]
  rfl

theorem pending_start_of_some {old : String} (hcurrent : h.connection.current = some old)
    (next : Option String) : (h.start next).pending = h.pending ++ next.toList := by
  rw [start_of_some hcurrent, pending, List.filterMap_append]
  cases next <;> rfl

/-- A waiting call taken out of the others. -/
theorem perm_waiting {waiting : List Closing} {index : Nat} {closing : Closing}
    (h : waiting[index]? = some closing) :
    (closing :: waiting.eraseIdx index).Perm waiting := by
  obtain ⟨hindex, hclosing⟩ := List.getElem?_eq_some_iff.mp h
  exact hclosing ▸ List.getElem_cons_eraseIdx_perm hindex

section Settle

variable {index : Nat} {closing : Closing}

theorem closings_settle (hwaiting : h.waiting[index]? = some closing) :
    (h.settle index closing).closings.Perm h.closings := by
  rw [closings, settle, List.append_assoc]
  exact ((perm_waiting hwaiting).map Closing.store).append_left h.closed

theorem pending_settle (hwaiting : h.waiting[index]? = some closing) :
    (closing.next.toList ++ (h.settle index closing).pending).Perm h.pending := by
  have hperm := (perm_waiting hwaiting).filterMap Closing.next
  cases hnext : closing.next with
  | none =>
      rw [List.filterMap_cons_none hnext] at hperm
      exact hperm
  | some next =>
      rw [List.filterMap_cons_some hnext] at hperm
      exact hperm

end Settle

/-- Every store that was seen is put in or about to be, by a waiting call or the one at work, and
every store that was put in is at one place: it is the current one, its closing has started, or it
is lost.  The flags tell which closings have started. -/
structure Balanced (h : Handover) (next : Option String) (lost seen : List String) : Prop where
  arrivals : ∀ name,
    seen.count name = h.installed.count name + h.pending.count name + next.toList.count name
  places : ∀ name, h.installed.count name =
    h.connection.current.toList.count name + h.closings.count name + lost.count name
  flags : ∀ name, h.connection.stores.lookup name =
    if name ∈ seen then some (!h.closings.contains name) else none

theorem balanced_opened (first : Option String) : (opened first).Balanced none [] first.toList := by
  cases first with
  | none => exact ⟨fun _ => rfl, fun _ => rfl, fun _ => rfl⟩
  | some name =>
      refine ⟨fun _ => rfl, fun _ => rfl, fun name' => ?_⟩
      show (Connection.initial.mention name).stores.lookup name' = _
      rw [Connection.lookup_mention rfl, Option.toList_some]
      simp only [List.mem_singleton]
      rfl

theorem Balanced.count_closings_le (hb : h.Balanced next lost seen) (name : String) :
    h.closings.count name ≤ seen.count name := by
  have harrivals := hb.arrivals name
  have hplaces := hb.places name
  omega

theorem Balanced.mem_seen (hb : h.Balanced next lost seen) {name : String}
    (hname : name ∈ h.installed) : name ∈ seen := by
  have harrivals := hb.arrivals name
  have hpos := List.count_pos_iff.mpr hname
  exact List.count_pos_iff.mp (by omega)

/-- A store that is named for the first time is open, and the call at work has it. -/
theorem Balanced.mention (hb : h.Balanced none lost seen) {name : String} (hnew : name ∉ seen) :
    Balanced { h with connection := h.connection.mention name } (some name) lost
      (seen ++ [name]) := by
  have hunknown : h.connection.stores.lookup name = none := by
    rw [hb.flags, if_neg hnew]
  have hopen : name ∉ h.closings := by
    intro hclosing
    have hle := hb.count_closings_le name
    have hpos := List.count_pos_iff.mpr hclosing
    exact hnew (List.count_pos_iff.mp (by omega))
  refine ⟨fun name' => ?_, hb.places, fun name' => ?_⟩
  · rw [List.count_append, hb.arrivals name']
    rfl
  · show _ = if name' ∈ seen ++ [name] then some (!h.closings.contains name') else none
    rw [Connection.lookup_mention hunknown, hb.flags]
    by_cases hsame : name' = name
    · simp [hsame, hopen]
    · simp [hsame]

/-- The store of the call at work is put in, and the one that it finds is lost. -/
theorem Balanced.finish (hb : h.Balanced next lost seen) :
    (h.finish next).Balanced none (lost ++ h.pushedOut next) seen := by
  cases next with
  | none =>
      rw [pushedOut, List.append_nil]
      exact hb
  | some name =>
      have hinstalled : (h.finish (some name)).installed = h.installed ++ [name] := rfl
      have hcurrent : (h.finish (some name)).connection.current = some name := rfl
      refine ⟨fun name' => ?_, fun name' => ?_, ?_⟩
      · rw [hb.arrivals, hinstalled, pending_finish, List.count_append, Option.toList_some,
          Option.toList_none, List.count_nil]
        omega
      · rw [hinstalled, hcurrent, closings_finish, pushedOut, List.count_append,
          List.count_append, hb.places, Option.toList_some]
        omega
      · rw [closings_finish]
        exact hb.flags

/-- A call that starts loses nothing: it closes the store that it finds. -/
theorem Balanced.start (hb : h.Balanced next lost seen) :
    (h.start next).Balanced none lost seen := by
  cases hcurrent : h.connection.current with
  | none =>
      have hnone : h.pushedOut next = [] := by
        cases next with
        | none => rfl
        | some name => rw [pushedOut, hcurrent]; rfl
      have hfinish := hb.finish
      rw [hnone, List.append_nil] at hfinish
      rwa [start_of_none hcurrent]
  | some old =>
      have hplaces := hb.places
      simp only [hcurrent, Option.toList_some] at hplaces
      have hold : old ∈ seen := by
        have hcount := hplaces old
        rw [List.count_singleton_self] at hcount
        exact hb.mem_seen (List.count_pos_iff.mp (by omega))
      have hvacant : (h.start next).connection.current = none := by
        rw [start_of_some hcurrent]
        rfl
      have hinstalled : (h.start next).installed = h.installed := by
        rw [start_of_some hcurrent]
      refine ⟨fun name => ?_, fun name => ?_, fun name => ?_⟩
      · rw [hb.arrivals, hinstalled, pending_start_of_some hcurrent, List.count_append,
          Option.toList_none, List.count_nil]
        omega
      · rw [hinstalled, hvacant, closings_start_of_some hcurrent, List.count_append, hplaces,
          Option.toList_none, List.count_nil]
        omega
      · rw [closings_start_of_some hcurrent, start_of_some hcurrent, Connection.lookup_close]
        show (h.connection.stores.lookup name).map _ = _
        rw [hb.flags]
        by_cases hsame : name = old
        · simp [hsame, hold]
        · by_cases hseen : name ∈ seen
          · simp [hsame, hseen]
          · simp [hseen]

/-- A closing that ends changes the place of no store, and the call at work gets the store that it
is to connect. -/
theorem Balanced.settle (hb : h.Balanced none lost seen) {index : Nat} {closing : Closing}
    (hwaiting : h.waiting[index]? = some closing) :
    (h.settle index closing).Balanced closing.next lost seen := by
  have hclosings := closings_settle hwaiting
  have hinstalled : (h.settle index closing).installed = h.installed := rfl
  have hconnection : (h.settle index closing).connection = h.connection := rfl
  refine ⟨fun name => ?_, fun name => ?_, fun name => ?_⟩
  · have hpending := (pending_settle hwaiting).count_eq name
    rw [List.count_append] at hpending
    rw [hb.arrivals, hinstalled, ← hpending, Option.toList_none, List.count_nil]
    omega
  · rw [hinstalled, hconnection, hclosings.count_eq]
    exact hb.places name
  · rw [hconnection, hb.flags]
    simp only [List.contains_eq_mem, hclosings.mem_iff]

/-- What is at which place after an event. -/
theorem Balanced.handle (hb : h.Balanced none lost seen) {event : HandoverEvent}
    (hnew : ∀ name ∈ event.connects?, name ∉ seen) :
    (h.handle event).Balanced none (lost ++ h.displaced event)
      (seen ++ event.connects?.toList) := by
  cases event with
  | connect name =>
      have hnone : h.displaced (.connect name) = [] := rfl
      rw [hnone, List.append_nil]
      exact (hb.mention (hnew name rfl)).start
  | disconnect =>
      have hnone : h.displaced .disconnect = [] := rfl
      have hno : HandoverEvent.disconnect.connects?.toList = [] := rfl
      rw [hnone, hno, List.append_nil, List.append_nil]
      exact hb.start
  | closed index =>
      have hno : (HandoverEvent.closed index).connects?.toList = [] := rfl
      rw [hno, List.append_nil, Handover.handle, displaced]
      cases hwaiting : h.waiting[index]? with
      | none =>
          rw [List.append_nil]
          exact hb
      | some closing => exact (hb.settle hwaiting).finish

/-- What is at which place after a run, in which no store comes twice. -/
theorem Balanced.after (hb : h.Balanced none lost seen) {events : List HandoverEvent}
    (hfresh : (seen ++ events.filterMap HandoverEvent.connects?).Nodup) :
    (h.after events).Balanced none (lost ++ h.lost events)
      (seen ++ events.filterMap HandoverEvent.connects?) := by
  induction events generalizing h lost seen with
  | nil =>
      rw [Handover.lost, List.filterMap_nil, List.append_nil, List.append_nil]
      exact hb
  | cons event rest ih =>
      have hnames : (event :: rest).filterMap HandoverEvent.connects? =
          event.connects?.toList ++ rest.filterMap HandoverEvent.connects? := by
        cases event <;> rfl
      rw [hnames, ← List.append_assoc] at hfresh ⊢
      have hnew : ∀ name ∈ event.connects?, name ∉ seen := by
        intro name hname hseen
        have hdisjoint := (List.nodup_append.mp (List.nodup_append.mp hfresh).1).2.2
        exact hdisjoint name hseen name (Option.mem_toList.mpr hname) rfl
      rw [Handover.lost, ← List.append_assoc]
      exact ih (hb.handle hnew) hfresh

/-! ## Calls that do not overlap -/

/-- At most one waiting call is to connect a store, and nothing is connected while it waits. -/
structure Alone (h : Handover) : Prop where
  single : h.pending.length ≤ 1
  vacant : h.pending ≠ [] → h.connection.current = none

/-- No call waits to connect a store. -/
theorem alone_of_pending (hpending : h.pending = []) : h.Alone :=
  ⟨by rw [hpending]; exact Nat.zero_le 1, fun hsome => absurd hpending hsome⟩

/-- A call that starts does not come between another one and the store that it is to connect. -/
theorem Alone.start (ha : h.Alone) (hnext : next.isSome → h.pending = []) :
    (h.start next).Alone := by
  cases hcurrent : h.connection.current with
  | none =>
      rw [start_of_none hcurrent]
      cases next with
      | none => exact ha
      | some name => exact alone_of_pending ((pending_finish h (some name)).trans (hnext rfl))
  | some old =>
      have hempty : h.pending = [] := by
        by_contra hsome
        have hvacant := ha.vacant hsome
        rw [hcurrent] at hvacant
        cases hvacant
      refine ⟨?_, fun _ => by rw [start_of_some hcurrent]; rfl⟩
      rw [pending_start_of_some hcurrent, hempty, List.nil_append]
      exact Option.length_toList_le

/-- A waiting call that goes on finds nothing in its way. -/
theorem Alone.settle (ha : h.Alone) {index : Nat} {closing : Closing}
    (hwaiting : h.waiting[index]? = some closing) :
    ((h.settle index closing).finish closing.next).Alone ∧ h.pushedOut closing.next = [] := by
  have hperm := pending_settle hwaiting
  have hlength := hperm.length_eq
  have hsingle := ha.single
  cases hnext : closing.next with
  | none =>
      rw [hnext, Option.toList_none, List.nil_append] at hperm
      refine ⟨⟨?_, fun hsome => ha.vacant fun hempty => hsome ?_⟩, rfl⟩
      · rw [pending_finish, hperm.length_eq]
        exact hsingle
      · rw [pending_finish]
        exact List.Perm.eq_nil (hempty ▸ hperm)
  | some name =>
      rw [hnext, Option.toList_some, List.length_append, List.length_singleton] at hlength
      have hlast : (h.settle index closing).pending = [] :=
        List.eq_nil_of_length_eq_zero (by omega)
      have hvacant : h.connection.current = none :=
        ha.vacant (List.ne_nil_of_length_pos (by omega))
      refine ⟨alone_of_pending ((pending_finish _ _).trans hlast), ?_⟩
      rw [pushedOut, hvacant]
      rfl

/-- As long as calls that connect do not overlap, no store is pushed out. -/
theorem Alone.handle (ha : h.Alone) {event : HandoverEvent}
    (hevent : event.connects?.isSome → h.pending = []) :
    (h.handle event).Alone ∧ h.displaced event = [] := by
  cases event with
  | connect name =>
      have hmention : Alone { h with connection := h.connection.mention name } :=
        ⟨ha.single, ha.vacant⟩
      exact ⟨hmention.start hevent, rfl⟩
  | disconnect => exact ⟨ha.start (fun hnone => by cases hnone), rfl⟩
  | closed index =>
      rw [Handover.handle, displaced]
      cases hwaiting : h.waiting[index]? with
      | none => exact ⟨ha, rfl⟩
      | some closing => exact ha.settle hwaiting

/-- Calls that do not overlap push out nothing. -/
theorem Alone.lost_eq_nil (ha : h.Alone) {events : List HandoverEvent}
    (hevents : h.OneAtATime events) : h.lost events = [] := by
  induction events generalizing h with
  | nil => rfl
  | cons event rest ih =>
      obtain ⟨hfirst, hrest⟩ := hevents
      obtain ⟨halone, hnone⟩ := ha.handle hfirst
      rw [Handover.lost, hnone, List.nil_append]
      exact ih halone hrest

end Handover

/-! ## Closed stores -/

/-- However calls to connect new stores and to disconnect overlap, no store is closed twice.  When
all calls have ended, a store that was put in and is not the current one has been closed, unless it
was lost: a call that had waited put its store in the place of it, and it stays open.  No store is
lost when the calls that connect do not overlap with one another. -/
theorem closed_unless_lost (first : Option String) (events : List HandoverEvent)
    (hfresh : (first.toList ++ events.filterMap HandoverEvent.connects?).Nodup) :
    let start := Handover.opened first
    let h := start.after events
    h.closings.Nodup ∧
      (h.waiting = [] → ∀ name ∈ h.installed, h.connection.current ≠ some name →
        (name ∈ h.closed ↔ name ∉ start.lost events) ∧
        (h.connection.isOpen name = false ↔ name ∈ h.closed)) ∧
      (start.OneAtATime events → start.lost events = []) := by
  intro start h
  have hb : h.Balanced none ([] ++ start.lost events) _ :=
    (Handover.balanced_opened first).after hfresh
  rw [List.nil_append] at hb
  have honce : ∀ name, (first.toList ++ events.filterMap HandoverEvent.connects?).count name ≤ 1 :=
    List.nodup_iff_count_le_one.mp hfresh
  refine ⟨?_, ?_, (Handover.alone_of_pending rfl).lost_eq_nil⟩
  · exact List.nodup_iff_count_le_one.mpr fun name =>
      Nat.le_trans (hb.count_closings_le name) (honce name)
  · -- With nothing waiting, each of the three counts that make up one is zero or one.
    intro hended name hinstalled hreplaced
    have hclosed : h.closings = h.closed := by
      rw [Handover.closings, hended, List.map_nil, List.append_nil]
    have hseen := hb.mem_seen hinstalled
    have harrivals := hb.arrivals name
    have hplaces := hb.places name
    have hhere := List.count_pos_iff.mpr hinstalled
    have hname := honce name
    have haway : h.connection.current.toList.count name = 0 := by
      rw [List.count_eq_zero, Option.mem_toList]
      exact hreplaced
    refine ⟨?_, ?_⟩
    · rw [← List.count_pos_iff, ← List.count_eq_zero, ← hclosed]
      omega
    · rw [Connection.isOpen, hb.flags, if_pos hseen, hclosed]
      simp

/-- While store a is being closed for b, store c is put in and lost.  Store b is closed when d comes
after it, with a disconnect in between. -/
theorem closed_unless_lost_of_crossing :
    let events : List HandoverEvent :=
      [.connect "b", .connect "c", .closed 0, .disconnect, .connect "d", .closed 0]
    let h := (Handover.opened (some "a")).after events
    (["a"] ++ events.filterMap HandoverEvent.connects?).Nodup ∧
      (Handover.opened (some "a")).lost events = ["c"] ∧
      h.waiting = [] ∧ h.installed = ["a", "c", "b", "d"] ∧ h.connection.current = some "d" ∧
      h.closings.Nodup ∧ "a" ∈ h.closed ∧ "b" ∈ h.closed ∧ "c" ∉ h.closed := by
  intro events h
  have hfresh : (["a"] ++ events.filterMap HandoverEvent.connects?).Nodup := by decide
  have hlost : (Handover.opened (some "a")).lost events = ["c"] := by decide
  have hended : h.waiting = [] := by decide
  have hinstalled : h.installed = ["a", "c", "b", "d"] := by decide
  have hcurrent : h.connection.current = some "d" := by decide
  obtain ⟨honce, hclosed, -⟩ := closed_unless_lost (some "a") events hfresh
  have hiff : ∀ name ∈ ["a", "b", "c"], (name ∈ h.closed ↔ name ∉ ["c"]) := by
    intro name hname
    have hplace : name ∈ h.installed ∧ h.connection.current ≠ some name := by
      rw [hinstalled, hcurrent]
      revert name
      decide
    rw [← hlost]
    exact (hclosed hended name hplace.1 hplace.2).1
  refine ⟨hfresh, hlost, hended, hinstalled, hcurrent, honce, ?_, ?_, ?_⟩
  · exact (hiff "a" (by decide)).mpr (by decide)
  · exact (hiff "b" (by decide)).mpr (by decide)
  · exact fun hc => (hiff "c" (by decide)).mp hc (by decide)

/-- A waiting call pushes out the store that a later call put in, and this is never closed. -/
theorem crossing_call_loses_store :
    let events : List HandoverEvent := [.connect "a", .connect "b", .connect "c", .closed 0]
    let h := (Handover.opened none).after events
    (events.filterMap HandoverEvent.connects?).Nodup ∧ h.waiting = [] ∧ "c" ∈ h.installed ∧
      h.connection.current = some "b" ∧ "c" ∉ h.closed ∧ h.connection.isOpen "c" = true := by
  decide

end DocConsole
