import Mathlib.Algebra.GroupWithZero.Nat
import MessageBroker.Peer.Client
import MessageBroker.Proofs.Queue.Rotation

/-!
# Rosters that share their clients

Clients subscribe to several queues, so one client record stands behind members of several rosters,
and what one queue takes of its slots the others lack. A board holds the client records and the
rosters. A selection on one of the rosters takes a slot of whom it chooses.

While the members of a roster stay, its selections begin at the places of the circle in turn, because
each of them moves the counter on by one. That is not one past the member chosen last: a selection
that passes over members without room does not move the counter further, and one that finds nobody
moves it on as well. The first main statement says where selections begin, and when that is one past
the last choice. The second says what a selection does to the clients, whatever was done to the board
before, and that no member with room is left out for as many selections as there are members.
-/

namespace MessageBroker.Queue

/-- Client records, and the rosters of several queues that share them. -/
structure Board where
  clients : List Peer.Client
  rosters : List Roster
deriving DecidableEq

namespace Board

/-- Something that is done to a board. -/
inductive Move where
  /-- A client is listed at a roster. -/
  | add (d c : Nat)
  | remove (d : Nat) (id : String)
  | clear (d : Nat)
  /-- A member of a roster is selected, and a slot of it taken. -/
  | select (d : Nat)
  /-- A slot of a client is taken, if one is free. -/
  | reserve (c : Nat)
  | release (c : Nat)
  | setCeiling (c ceiling : Nat)
deriving DecidableEq

/-- Whether a client has a free slot. -/
def hasRoom (s : Board) (c : Nat) : Bool :=
  s.clients[c]?.any Peer.Client.hasRoom

/-- What a move leads to. Rosters and clients that do not exist change nothing. -/
def apply (s : Board) : Move → Board
  | .add d c =>
    match s.clients[c]? with
    | none => s
    | some client => { s with rosters := s.rosters.modify d fun r => (r.add? ⟨c, client.id⟩).getD r }
  | .remove d id => { s with rosters := s.rosters.modify d fun r => r.remove id }
  | .clear d => { s with rosters := s.rosters.modify d Roster.clear }
  | .select d =>
    match s.rosters[d]? with
    | none => s
    | some r =>
      let (chosen, r) := r.select s.hasRoom
      { clients := match chosen with
          | none => s.clients
          | some m => s.clients.modify m.client Peer.Client.occupy
        rosters := s.rosters.set d r }
  | .reserve c => { s with clients := s.clients.modify c fun client => client.reserve.2 }
  | .release c => { s with clients := s.clients.modify c Peer.Client.release }
  | .setCeiling c ceiling => { s with clients := s.clients.modify c (·.setCeiling ceiling) }

/-- What moves lead to. -/
def after (s : Board) (moves : List Move) : Board :=
  moves.foldl apply s

/-- Clients that are listed nowhere yet. -/
def start (clients : List Peer.Client) (rosters : Nat) : Board :=
  ⟨clients, List.replicate rosters .empty⟩

/-- A selection: the board before it, and whom it chose. -/
structure Call where
  board : Board
  chosen : Option Member

/-- The selections on a roster in the course of moves. -/
def calls (d : Nat) : Board → List Move → List Call
  | _, [] => []
  | s, move :: rest =>
    (if move = .select d then (s.rosters[d]?.map fun r => ⟨s, (r.select s.hasRoom).1⟩).toList
      else []) ++ calls d (s.apply move) rest

/-- A roster has given members all the time. -/
def Keeps (d : Nat) (members : List Member) : Board → List Move → Prop
  | s, [] => s.rosters[d]?.map Roster.members = some members
  | s, move :: rest =>
    s.rosters[d]?.map Roster.members = some members ∧ Keeps d members (s.apply move) rest

/-! ## The counter -/

variable {s : Board} {d : Nat} {r : Roster}

/-- A roster stays where it is, and its counter moves on with its selections only. -/
theorem roster_apply (found : s.rosters[d]? = some r) (move : Move) :
    ∃ r', (s.apply move).rosters[d]? = some r' ∧
      r'.turn = if move = .select d ∧ r.members ≠ [] then r.turn + 1 else r.turn := by
  have modified : ∀ (d' : Nat) (f : Roster → Roster), (∀ r, (f r).turn = r.turn) →
      ∃ r', (s.rosters.modify d' f)[d]? = some r' ∧ r'.turn = r.turn := by
    intro d' f turn
    rw [List.getElem?_modify, found]
    split
    · exact ⟨_, rfl, turn r⟩
    · exact ⟨_, rfl, rfl⟩
  have same : ∃ r', s.rosters[d]? = some r' ∧ r'.turn = r.turn := ⟨r, found, rfl⟩
  cases move with
  | add d' c =>
    simp only [apply, reduceCtorEq, false_and, if_false]
    split
    · exact same
    · refine modified d' _ fun r => ?_
      rw [Roster.add?]
      split <;> rfl
  | remove d' id =>
    simpa only [apply, reduceCtorEq, false_and, if_false] using
      modified d' (fun r => r.remove id) fun _ => rfl
  | clear d' =>
    simpa only [apply, reduceCtorEq, false_and, if_false] using modified d' Roster.clear fun _ => rfl
  | select d' =>
    by_cases here : d' = d
    · subst here
      obtain ⟨short, -⟩ := List.getElem?_eq_some_iff.1 found
      simp only [apply, found, List.getElem?_set_self short, true_and, ne_eq, ite_not]
      exact ⟨_, rfl, r.turn_select s.hasRoom⟩
    · simp only [apply, Move.select.injEq, here, false_and, if_false]
      split
      · exact same
      · rw [List.getElem?_set_ne here]
        exact same
  | reserve c => simpa only [apply, reduceCtorEq, false_and, if_false] using same
  | release c => simpa only [apply, reduceCtorEq, false_and, if_false] using same
  | setCeiling c n => simpa only [apply, reduceCtorEq, false_and, if_false] using same

theorem Keeps.head {members : List Member} {moves : List Move} (keeps : Keeps d members s moves) :
    s.rosters[d]?.map Roster.members = some members := by
  cases moves with
  | nil => exact keeps
  | cons move rest => exact keeps.1

/-- While the members of a roster stay, its selections find the counter moved on by one each. -/
theorem roster_of_call {moves : List Move} {i : Nat} {call : Call}
    (found : s.rosters[d]? = some r) (keeps : Keeps d r.members s moves)
    (listed : (calls d s moves)[i]? = some call) :
    ∃ r' : Roster, r'.members = r.members ∧
      (r.members ≠ [] → r'.turn.toNat = (r.turn.toNat + i) % 2 ^ 64) ∧
      call.chosen = (r'.select call.board.hasRoom).1 := by
  induction moves generalizing s r i with
  | nil => cases listed
  | cons move rest ih =>
    obtain ⟨r', found', turn⟩ := roster_apply found move
    have members : r'.members = r.members := by
      have kept := keeps.2.head
      rw [found'] at kept
      exact Option.some.inj kept
    rw [calls, found] at listed
    by_cases selects : move = .select d
    · rw [if_pos selects] at listed
      cases i with
      | zero =>
        cases listed
        exact ⟨r, rfl, fun _ => (Nat.mod_eq_of_lt r.turn.toNat_lt).symm, rfl⟩
      | succ i =>
        obtain ⟨r'', members'', turn'', chosen⟩ := ih (i := i) found' (members ▸ keeps.2) listed
        refine ⟨r'', members''.trans members, fun some' => ?_, chosen⟩
        rw [turn'' (members ▸ some'), turn, if_pos ⟨selects, some'⟩, UInt64.toNat_add,
          Nat.mod_add_mod, Nat.add_assoc, Nat.add_comm i 1]
        rfl
    · rw [if_neg selects] at listed
      rw [if_neg fun both => selects both.1] at turn
      obtain ⟨r'', members'', turn'', chosen⟩ := ih found' (members ▸ keeps.2) listed
      exact ⟨r'', members''.trans members, fun some' => turn ▸ turn'' (members ▸ some'), chosen⟩

/-- The selections on a roster begin at the places of the circle in turn. -/
theorem chosen_of_call {moves : List Move} {i : Nat} {call : Call}
    (found : s.rosters[d]? = some r) (keeps : Keeps d r.members s moves)
    (listed : (calls d s moves)[i]? = some call) (m : Member) :
    call.chosen = some m ↔
      ∃ k, Roster.Finds r.members call.board.hasRoom ((r.turn.toNat + i) % 2 ^ 64) k m := by
  obtain ⟨r', members, turn, chosen⟩ := roster_of_call found keeps listed
  rw [chosen, Roster.select_eq_some_iff, members]
  by_cases nobody : r.members = []
  · simp only [nobody]
    exact iff_of_false (fun ⟨_, finds⟩ => absurd finds.short (Nat.not_lt_zero _))
      fun ⟨_, finds⟩ => absurd finds.short (Nat.not_lt_zero _)
  · rw [turn nobody]

/-- A selection on a roster begins where its counter points to, one place further than the selection
before, whatever that one chose. So it begins one past the member that an earlier selection chose if
that one passed over as many members without room as other selections came in between, all round the
circle; in particular, if it passed over none and is the one before. -/
theorem selections_begin_in_turn {moves : List Move} (found : s.rosters[d]? = some r)
    (keeps : Keeps d r.members s moves) :
    (∀ (i : Nat) (call : Call), (calls d s moves)[i]? = some call → ∀ m, call.chosen = some m ↔
      ∃ k, Roster.Finds r.members call.board.hasRoom ((r.turn.toNat + i) % 2 ^ 64) k m) ∧
    ∀ (j between : Nat) (earlier call : Call) (k : Nat) (m : Member),
      (calls d s moves)[j]? = some earlier →
      (calls d s moves)[j + 1 + between]? = some call → r.turn.toNat + j + 1 + between < 2 ^ 64 →
      Roster.Finds r.members earlier.board.hasRoom (r.turn.toNat + j) k m →
      k % r.size = between % r.size →
      earlier.chosen = some m ∧ ∀ m', call.chosen = some m' ↔
        ∃ k', Roster.Finds r.members call.board.hasRoom (r.turn.toNat + j + k + 1) k' m' := by
  refine ⟨fun i call listed => chosen_of_call found keeps listed, ?_⟩
  intro j between earlier call k m before listed word finds passed
  constructor
  · rw [chosen_of_call found keeps before, Nat.mod_eq_of_lt (by omega)]
    exact ⟨k, finds⟩
  · intro m'
    rw [chosen_of_call found keeps listed, Nat.mod_eq_of_lt (by omega)]
    have same : (r.turn.toNat + (j + 1 + between)) % r.members.length =
        (r.turn.toNat + j + k + 1) % r.members.length := by
      rw [show r.turn.toNat + (j + 1 + between) = r.turn.toNat + j + 1 + between by omega,
        show r.turn.toNat + j + k + 1 = r.turn.toNat + j + 1 + k by omega, Nat.add_mod,
        ← (show k % r.members.length = between % r.members.length from passed), ← Nat.add_mod]
    exact exists_congr fun _ => Roster.Finds.mod_iff same

/-- Three clients are listed at one roster. The first has one slot, which is taken, the others two. -/
def besideBusy : Board :=
  (start [.new "a" .reliable 1, .new "b" .reliable 2, .new "c" .reliable 2] 1).after
    [.add 0 0, .add 0 1, .add 0 2, .reserve 0]

/-- A selection that finds nobody makes up for a member that was passed over: the next one begins one
past the last choice. -/
theorem selections_begin_in_turn_after_none :
    let moves : List Move :=
      [.select 0, .reserve 1, .reserve 2, .reserve 2, .select 0, .release 0, .release 2, .select 0]
    ∃ earlier call, (calls 0 besideBusy moves)[0]? = some earlier ∧
      (calls 0 besideBusy moves)[2]? = some call ∧
      earlier.chosen = some ⟨1, "b"⟩ ∧ call.chosen = some ⟨2, "c"⟩ := by
  intro moves
  have keeps : Keeps 0 [⟨0, "a"⟩, ⟨1, "b"⟩, ⟨2, "c"⟩] besideBusy moves :=
    ⟨rfl, rfl, rfl, rfl, rfl, rfl, rfl, rfl, rfl⟩
  obtain ⟨-, past⟩ := selections_begin_in_turn (r := ⟨_, 0⟩) rfl keeps
  refine ⟨_, _, rfl, rfl, ?_⟩
  have passed : ∀ j < 1, ∀ m', ([⟨0, "a"⟩, ⟨1, "b"⟩, ⟨2, "c"⟩] : List Member)[(0 + 0 + j) % 3]? =
      some m' → besideBusy.hasRoom m'.client = false := by
    intro j before m' place
    obtain rfl : j = 0 := by omega
    cases place
    rfl
  obtain ⟨first, third⟩ :=
    past 0 1 _ _ 1 ⟨1, "b"⟩ rfl rfl (by decide) ⟨by decide, rfl, rfl, passed⟩ rfl
  exact ⟨first, (third _).2 ⟨0, .here rfl rfl⟩⟩

/-- A member that was passed over is passed over again, and the second selection chooses as the first
one did, although the member one past that choice has room. -/
theorem choice_repeated_past_busy :
    (calls 0 besideBusy [.select 0, .select 0]).map Call.chosen =
        [some ⟨1, "b"⟩, some ⟨1, "b"⟩] ∧
      Roster.Finds [⟨0, "a"⟩, ⟨1, "b"⟩, ⟨2, "c"⟩] (besideBusy.apply (.select 0)).hasRoom (1 + 1) 0
        ⟨2, "c"⟩ :=
  ⟨by decide, .here rfl rfl⟩

/-! ## Members and their clients -/

/-- The ids of members differ, and each is that of its client. -/
structure Lists (clients : List Peer.Client) (r : Roster) : Prop where
  once : (r.members.map Member.id).Nodup
  known : ∀ m ∈ r.members, ∃ client, clients[m.client]? = some client ∧ client.id = m.id

namespace Lists

variable {clients : List Peer.Client} {r' : Roster}

theorem empty (clients : List Peer.Client) : Lists clients .empty :=
  ⟨List.nodup_nil, nofun⟩

/-- Members may go. -/
theorem sublist (lists : Lists clients r) (fewer : r'.members.Sublist r.members) :
    Lists clients r' :=
  ⟨lists.once.sublist (fewer.map _), fun m listed => lists.known m (fewer.subset listed)⟩

theorem add {client : Peer.Client} {c : Nat} (lists : Lists clients r)
    (found : clients[c]? = some client) : Lists clients ((r.add? ⟨c, client.id⟩).getD r) := by
  unfold Roster.add?
  split
  · exact lists
  · rename_i new
    simp only [Roster.contains, Bool.not_eq_true, List.any_eq_false, beq_iff_eq] at new
    constructor
    · rw [Option.getD_some, List.map_append, List.nodup_append]
      refine ⟨lists.once, List.nodup_singleton _, fun id listed id' last same => ?_⟩
      obtain ⟨m, before, rfl⟩ := List.mem_map.1 listed
      exact new m before (same.trans (List.mem_singleton.1 last))
    · intro m listed
      rcases List.mem_append.1 listed with before | last
      · exact lists.known m before
      · rw [List.mem_singleton.1 last]
        exact ⟨client, found, rfl⟩

/-- Clients may change, except for their ids. -/
theorem modify (lists : Lists clients r) (c : Nat) {f : Peer.Client → Peer.Client}
    (id : ∀ client, (f client).id = client.id) : Lists (clients.modify c f) r := by
  refine ⟨lists.once, fun m listed => ?_⟩
  obtain ⟨client, found, own⟩ := lists.known m listed
  rw [List.getElem?_modify, found]
  split
  · exact ⟨_, rfl, (id client).trans own⟩
  · exact ⟨_, rfl, own⟩

/-- Members have clients of their own. -/
theorem nodup_clients (lists : Lists clients r) : (r.members.map Member.client).Nodup := by
  refine List.Nodup.of_map (fun c => clients[c]?.map Peer.Client.id) ?_
  have ids : (r.members.map Member.client).map (fun c => clients[c]?.map Peer.Client.id) =
      (r.members.map Member.id).map some := by
    rw [List.map_map, List.map_map]
    refine List.map_congr_left fun m listed => ?_
    obtain ⟨client, found, own⟩ := lists.known m listed
    simp [found, own]
  rw [ids]
  exact lists.once.map fun _ _ => Option.some.inj

end Lists

/-- All rosters of a board list their members properly. -/
def Sound (s : Board) : Prop :=
  ∀ r ∈ s.rosters, Lists s.clients r

namespace Sound

theorem start (clients : List Peer.Client) (rosters : Nat) : (Board.start clients rosters).Sound := by
  intro r listed
  rw [List.eq_of_mem_replicate listed]
  exact .empty clients

theorem modifyRoster (sound : s.Sound) (d : Nat) {f : Roster → Roster}
    (kept : ∀ r, Lists s.clients r → Lists s.clients (f r)) :
    Sound { s with rosters := s.rosters.modify d f } := by
  intro r listed
  obtain ⟨i, found⟩ := List.mem_iff_getElem?.1 listed
  rw [List.getElem?_modify] at found
  obtain ⟨r, found', rfl⟩ := Option.map_eq_some_iff.1 found
  have lists := sound r (List.mem_of_getElem? found')
  split
  · exact kept r lists
  · exact lists

theorem modifyClient (sound : s.Sound) (c : Nat) {f : Peer.Client → Peer.Client}
    (id : ∀ client, (f client).id = client.id) : Sound { s with clients := s.clients.modify c f } :=
  fun r listed => (sound r listed).modify c id

/-- After a selection the roster lists the same members. -/
theorem select (sound : s.Sound) (found : s.rosters[d]? = some r) {clients : List Peer.Client}
    (lists : ∀ r, Lists s.clients r → Lists clients r) :
    Sound ⟨clients, s.rosters.set d (r.select s.hasRoom).2⟩ := by
  intro r' listed
  rcases List.mem_or_eq_of_mem_set listed with before | rfl
  · exact lists r' (sound r' before)
  · refine lists _ ((sound r (List.mem_of_getElem? found)).sublist ?_)
    rw [Roster.members_select]

theorem step (sound : s.Sound) (move : Move) : (s.apply move).Sound := by
  cases move with
  | add d c =>
    rw [apply]
    split
    · exact sound
    · rename_i client found
      exact sound.modifyRoster d fun r lists => lists.add found
  | remove d id =>
    exact sound.modifyRoster d fun r lists => lists.sublist List.filter_sublist
  | clear d =>
    exact sound.modifyRoster d fun r lists => lists.sublist (List.nil_sublist _)
  | select d =>
    rw [apply]
    split
    · exact sound
    · rename_i r found
      refine sound.select found fun r lists => ?_
      split
      · exact lists
      · exact lists.modify _ fun _ => rfl
  | reserve c =>
    refine sound.modifyClient c fun client => ?_
    rw [Peer.Client.reserve]
    split <;> rfl
  | release c => exact sound.modifyClient c fun _ => rfl
  | setCeiling c n => exact sound.modifyClient c fun _ => rfl

end Sound

theorem sound_after (clients : List Peer.Client) (rosters : Nat) (moves : List Move) :
    ((start clients rosters).after moves).Sound := by
  induction moves using List.reverseRecOn with
  | nil => exact .start clients rosters
  | append_singleton moves move ih =>
    rw [after, List.foldl_append]
    exact ih.step move

theorem hasRoom_eq_false_iff {c : Nat} : s.hasRoom c = false ↔
    ∀ client, s.clients[c]? = some client → client.ceiling ≤ client.inFlight := by
  rw [hasRoom]
  cases s.clients[c]? with
  | none => simp
  | some client => simp [Peer.Client.hasRoom]

/-- A selection takes a slot of the client behind the member that it chooses. -/
theorem clients_select (found : s.rosters[d]? = some r) :
    (s.apply (.select d)).clients = match (r.select s.hasRoom).1 with
      | none => s.clients
      | some m => s.clients.modify m.client Peer.Client.occupy := by
  simp only [apply, found]

theorem clients_select_of_some (found : s.rosters[d]? = some r) {m : Member}
    (chosen : (r.select s.hasRoom).1 = some m) :
    ∃ client, s.clients[m.client]? = some client ∧ client.inFlight < client.ceiling ∧
      (s.apply (.select d)).clients =
        s.clients.set m.client { client with inFlight := client.inFlight + 1 } := by
  have room := (Roster.mem_of_select chosen).2
  obtain ⟨client, record, free⟩ := (Option.any_eq_true _ _).1 room
  refine ⟨client, record, of_decide_eq_true free, ?_⟩
  rw [clients_select found, chosen]
  exact (List.modify_eq_set_getElem? ..).trans (by rw [record]; rfl)

/-- Among as many selections in a row as there are members, each begins at another place, so whoever
has room at each of them is chosen once. -/
theorem exists_call_choosing {moves : List Move} (found : s.rosters[d]? = some r)
    (keeps : Keeps d r.members s moves) (enough : r.size ≤ (calls d s moves).length)
    (word : r.turn.toNat + r.size ≤ 2 ^ 64) {m : Member} (listed : m ∈ r.members)
    (room : ∀ call ∈ (calls d s moves).take r.size, call.board.hasRoom m.client = true) :
    ∃ call ∈ (calls d s moves).take r.size, call.chosen = some m := by
  obtain ⟨place, within, own⟩ := List.getElem_of_mem listed
  obtain ⟨i, short, here⟩ := Roster.exists_add_mod_eq within r.turn.toNat
  have called : i < (calls d s moves).length := Nat.lt_of_lt_of_le short enough
  have early : (calls d s moves)[i] ∈ (calls d s moves).take r.size :=
    List.mem_take_iff_getElem.2 ⟨i, Nat.lt_min.2 ⟨short, called⟩, rfl⟩
  have begins := chosen_of_call found keeps (List.getElem?_eq_getElem called) m
  refine ⟨_, early, begins.2 ⟨0, .here ?_ (room _ early)⟩⟩
  rw [Nat.mod_eq_of_lt (Nat.lt_of_lt_of_le (Nat.add_lt_add_left short _) word), here,
    List.getElem?_eq_getElem within, own]

/-- Whatever was done to a board before, a selection on one of its rosters finds nobody exactly if there
is no first member with room, which is to say that all slots of all members are in use. Otherwise it
takes a slot of one member that had one, and nothing else changes about the clients. The ids of members
differ, and so do their clients. While the members stay and the counter does not wrap around, whoever
has room at as many selections in a row as there are members is chosen by one of them. -/
theorem selection_exact_and_fair (clients : List Peer.Client) (rosters d : Nat) (moves : List Move)
    (found : ((start clients rosters).after moves).rosters[d]? = some r) :
    let s := (start clients rosters).after moves
    ((r.select s.hasRoom).1 = none ↔ r.firstFree s.hasRoom = none) ∧
    (r.firstFree s.hasRoom = none ↔ ∀ m ∈ r.members, ∀ client,
      s.clients[m.client]? = some client → client.ceiling ≤ client.inFlight) ∧
    ((r.select s.hasRoom).1 = none → (s.apply (.select d)).clients = s.clients) ∧
    (∀ m, (r.select s.hasRoom).1 = some m → m ∈ r.members ∧
      ∃ client, s.clients[m.client]? = some client ∧ client.id = m.id ∧
        client.inFlight < client.ceiling ∧
        (s.apply (.select d)).clients =
          s.clients.set m.client { client with inFlight := client.inFlight + 1 }) ∧
    (r.members.map Member.id).Nodup ∧ (r.members.map Member.client).Nodup ∧
    ∀ later, Keeps d r.members s later → r.size ≤ (calls d s later).length →
      r.turn.toNat + r.size ≤ 2 ^ 64 → ∀ m ∈ r.members,
      (∀ call ∈ (calls d s later).take r.size, call.board.hasRoom m.client = true) →
      ∃ call ∈ (calls d s later).take r.size, call.chosen = some m := by
  intro s
  have lists := sound_after clients rosters moves r (List.mem_of_getElem? found)
  refine ⟨Roster.select_eq_none_iff.trans Roster.firstFree_eq_none_iff.symm, ?_, fun nobody => ?_,
    fun m chosen => ?_, lists.once, lists.nodup_clients, fun later keeps enough word m listed room =>
      exists_call_choosing found keeps enough word listed room⟩
  · simp only [Roster.firstFree_eq_none_iff, hasRoom_eq_false_iff]
  · rw [clients_select found, nobody]
  · have listed := (Roster.mem_of_select chosen).1
    obtain ⟨client, record, free, taken⟩ := clients_select_of_some found chosen
    obtain ⟨client', record', own⟩ := lists.known m listed
    cases record'.symm.trans record
    exact ⟨listed, client, record, own, free, taken⟩

/-- Two clients are listed at the first roster, the one with a single slot at the second as well, and the
first roster takes that slot. -/
def pairing : List Move :=
  [.add 0 0, .add 0 1, .add 1 0, .select 0]

/-- The second roster finds nobody then. At the first, the other client has room all the time and is
chosen by one of the next two selections, whatever the second roster tries in between. -/
theorem selection_exact_and_fair_shared :
    let s := (start [.new "a" .reliable 1, .new "b" .reliable 3] 2).after pairing
    let later : List Move := [.select 1, .select 0, .select 1, .release 0, .select 0]
    (s.rosters[1]?.map fun r => (r.select s.hasRoom).1) = some none ∧
      ∃ call ∈ (calls 0 s later).take 2, call.chosen = some ⟨1, "b"⟩ := by
  intro s later
  obtain ⟨none_iff, first_iff, -⟩ := selection_exact_and_fair
    [.new "a" .reliable 1, .new "b" .reliable 3] 2 1 pairing (r := ⟨[⟨0, "a"⟩], 0⟩) rfl
  obtain ⟨-, -, -, -, -, -, fair⟩ := selection_exact_and_fair
    [.new "a" .reliable 1, .new "b" .reliable 3] 2 0 pairing (r := ⟨[⟨0, "a"⟩, ⟨1, "b"⟩], 1⟩) rfl
  constructor
  · exact congrArg some (none_iff.2 (first_iff.2 (by decide)))
  · exact fair later ⟨rfl, rfl, rfl, rfl, rfl, rfl⟩ (by decide) (by decide) ⟨1, "b"⟩ (by decide)
      (by decide)

end Board

end MessageBroker.Queue
