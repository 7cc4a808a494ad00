import SurvivalArena.Exception
import SurvivalArena.Framework.OrderedMap
import SurvivalArena.Protocol.LobbyMessages

/-!
# Rooms

A room holds its members, numbered in the order they joined, one of them as the
host.  When the host leaves, the member who joined first takes over.
-/

namespace SurvivalArena

structure RoomMember where
  player : PlayerId
  ready : Bool := false
  joinOrdinal : UInt64 := 0

structure Room where
  id : RoomId
  state : RoomState := .waiting
  host : PlayerId
  members : Std.ExtTreeMap PlayerId RoomMember

namespace Room

def create (room : RoomId) (host : PlayerId) (joinOrdinal : UInt64) : Room where
  id := room
  host
  members := (∅ : Std.ExtTreeMap PlayerId RoomMember).insert host
    { player := host, joinOrdinal }

def contains (room : Room) (player : PlayerId) : Bool :=
  room.members.contains player

def empty (room : Room) : Bool :=
  room.members.isEmpty

def players (room : Room) : List PlayerId :=
  room.members.keys

def getHost (room : Room) : Except Exception PlayerId :=
  if room.empty then .error (.logicError "empty room has no host")
  else .ok room.host

def snapshot (room : Room) (requestId : UInt32) :
    Except Exception RoomSnapshot :=
  if room.empty then .error (.logicError "empty room has no snapshot")
  else .ok {
    requestId
    room := room.id
    state := room.state
    host := room.host
    members := room.members.toList.map fun entry =>
      { player := entry.1, ready := entry.2.ready } }

def join (room : Room) (player : PlayerId) (joinOrdinal : UInt64) :
    Except LobbyError Room :=
  if room.state ≠ .waiting then .error .roomNotJoinable
  else if room.contains player then .error .alreadyInRoom
  else if roomCapacity ≤ room.members.size then .error .roomFull
  else .ok { room with
    members := room.members.insert player { player, joinOrdinal } }

/-- The order in which members take over as host. -/
def seniority (entry : PlayerId × RoomMember) : UInt64 ×ₗ PlayerId :=
  toLex (entry.2.joinOrdinal, entry.1)

/-- The room without a member; the first of the others to have joined replaces a
host who leaves. -/
def without (room : Room) (player : PlayerId) : Room :=
  let members := room.members.erase player
  let host :=
    if player = room.host then
      (members.toList.argmin seniority).elim room.host Prod.fst
    else room.host
  { room with host, members }

def leave (room : Room) (player : PlayerId) : Except LobbyError Room :=
  if room.state ≠ .waiting then .error .roomNotJoinable
  else if !room.contains player then .error .notInRoom
  else .ok (room.without player)

def setReady (room : Room) (player : PlayerId) (ready : Bool) :
    Except LobbyError Room :=
  if room.state ≠ .waiting then .error .roomNotJoinable
  else
    match room.members[player]? with
    | none => .error .notInRoom
    | some member => .ok { room with
        members := room.members.insert player { member with ready } }

/-- The reason why `requester` cannot start the match, if there is one. -/
def validateStart (room : Room) (requester : PlayerId) : Option LobbyError :=
  if room.state ≠ .waiting then some .roomNotJoinable
  else if room.members.isEmpty ∨ requester ≠ room.host then some .notHost
  else if room.members.size < 2 then some .minimumPlayersRequired
  else if room.members.all fun _ member => member.ready then none
  else some .notAllReady

def beginStarting (room : Room) : Except Exception Room :=
  if (room.validateStart room.host).isSome then
    .error (.logicError "room cannot begin starting before start validation")
  else .ok { room with state := .starting }

def returnToWaiting (room : Room) : Except Exception Room :=
  if room.state ≠ .starting then
    .error (.logicError "room can return only from Starting")
  else .ok { room with state := .waiting }

def markInMatch (room : Room) : Except Exception Room :=
  if room.state ≠ .starting then
    .error (.logicError "room can enter match only from Starting")
  else .ok { room with state := .inMatch }

/-! ## Validity -/

/-- What holds of a room between calls. -/
structure Valid (room : Room) (roomId : RoomId) : Prop where
  id : room.id = roomId
  capacity : room.members.size ≤ roomCapacity
  players : ∀ (player : PlayerId) (member : RoomMember),
    room.members[player]? = some member → member.player = player
  ordinals : ∀ (first second : PlayerId) (firstMember secondMember : RoomMember),
    room.members[first]? = some firstMember →
    room.members[second]? = some secondMember →
    firstMember.joinOrdinal = secondMember.joinOrdinal → first = second
  /-- The host is the member who joined first. -/
  host : ∃ hostMember, room.members[room.host]? = some hostMember ∧
    ∀ (player : PlayerId) (member : RoomMember), room.members[player]? = some member →
      hostMember.joinOrdinal ≤ member.joinOrdinal

@[simp]
theorem mem_players {room : Room} {player : PlayerId} :
    player ∈ room.players ↔ player ∈ room.members :=
  Std.ExtTreeMap.mem_keys

theorem Valid.empty {room : Room} {roomId : RoomId} (h : room.Valid roomId) :
    room.empty = false := by
  obtain ⟨hostMember, hhost, -⟩ := h.host
  rw [Room.empty, Bool.eq_false_iff]
  intro hempty
  rw [Std.ExtTreeMap.isEmpty_iff] at hempty
  rw [hempty] at hhost
  simp at hhost

theorem players_nodup (room : Room) : room.players.Nodup :=
  Std.ExtTreeMap.nodup_keys

theorem length_players (room : Room) : room.players.length = room.members.size :=
  Std.ExtTreeMap.length_keys

/-- The snapshot of a room that has a member. -/
def view (room : Room) (requestId : UInt32) : RoomSnapshot where
  requestId
  room := room.id
  state := room.state
  host := room.host
  members := room.members.toList.map fun entry =>
    { player := entry.1, ready := entry.2.ready }

theorem Valid.snapshot_eq {room : Room} {roomId : RoomId} (h : room.Valid roomId)
    (requestId : UInt32) : room.snapshot requestId = .ok (room.view requestId) := by
  rw [Room.snapshot, if_neg (by simp [h.empty])]
  rfl

theorem Valid.snapshot {room : Room} {roomId : RoomId} (h : room.Valid roomId)
    (requestId : UInt32) : ∃ snapshot, room.snapshot requestId = .ok snapshot ∧
      snapshot.state = room.state ∧
      snapshot.members.length = room.members.size := by
  rw [Room.snapshot, if_neg (by simp [h.empty])]
  exact ⟨_, rfl, rfl, by simp⟩

theorem Valid.getHost {room : Room} {roomId : RoomId} (h : room.Valid roomId) :
    room.getHost = .ok room.host := by
  rw [Room.getHost, if_neg (by simp [h.empty])]

theorem Valid.withState {room : Room} {roomId : RoomId} (h : room.Valid roomId)
    (state : RoomState) : ({ room with state } : Room).Valid roomId :=
  ⟨h.id, h.capacity, h.players, h.ordinals, h.host⟩

/-- A new room has the host as its only member. -/
theorem create_member {roomId : RoomId} {host player : PlayerId}
    {joinOrdinal : UInt64} {member : RoomMember}
    (h : (create roomId host joinOrdinal).members[player]? = some member) :
    player = host ∧ member = { player := host, joinOrdinal } := by
  rw [create, OrderedMap.getElem?_insert] at h
  by_cases heq : player = host
  · rw [if_pos heq] at h
    exact ⟨heq, (Option.some.inj h).symm⟩
  · rw [if_neg heq] at h
    simp at h

theorem valid_create (roomId : RoomId) (host : PlayerId) (joinOrdinal : UInt64) :
    (create roomId host joinOrdinal).Valid roomId := by
  exact {
    id := rfl
    capacity := by
      rw [create, Std.ExtTreeMap.size_insert]
      simp [roomCapacity]
    players := by
      intro player member h
      obtain ⟨rfl, rfl⟩ := create_member h
      rfl
    ordinals := by
      intro first second firstMember secondMember hfirst hsecond _
      rw [(create_member hfirst).1, (create_member hsecond).1]
    host := by
      refine ⟨{ player := host, joinOrdinal }, ?_, ?_⟩
      · rw [create, OrderedMap.getElem?_insert, if_pos rfl]
      · intro player member h
        rw [(create_member h).2] }

@[simp]
theorem mem_create {roomId : RoomId} {host player : PlayerId}
    {joinOrdinal : UInt64} :
    player ∈ (create roomId host joinOrdinal).members ↔ player = host := by
  rw [create, Std.ExtTreeMap.mem_insert, Std.LawfulEqCmp.compare_eq_iff_eq,
    eq_comm]
  simp

/-! ## Joining -/

@[simp]
theorem contains_iff {room : Room} {player : PlayerId} :
    room.contains player = true ↔ player ∈ room.members :=
  Std.ExtTreeMap.contains_iff_mem

theorem join_eq_ok {room joined : Room} {player : PlayerId}
    {joinOrdinal : UInt64} :
    room.join player joinOrdinal = .ok joined ↔
      room.state = .waiting ∧ player ∉ room.members ∧
        room.members.size < roomCapacity ∧
        joined = { room with
          members := room.members.insert player { player, joinOrdinal } } := by
  unfold join
  by_cases hstate : room.state = .waiting
  · by_cases hplayer : player ∈ room.members
    · simp [hstate, hplayer]
    · by_cases hsize : roomCapacity ≤ room.members.size
      · simp [hstate, hplayer, hsize, not_lt.mpr hsize]
      · simp only [hstate, contains_iff, hplayer, hsize, not_le.mp hsize, ne_eq,
          not_true_eq_false, if_false, not_false_eq_true, true_and,
          Except.ok.injEq]
        exact eq_comm
  · simp [hstate]

/-- Who is in a room after a join. -/
theorem mem_joined {members : Std.ExtTreeMap PlayerId RoomMember}
    {player other : PlayerId} {member : RoomMember} :
    other ∈ members.insert player member ↔ other = player ∨ other ∈ members := by
  rw [Std.ExtTreeMap.mem_insert, Std.LawfulEqCmp.compare_eq_iff_eq, eq_comm]

theorem Valid.join {room joined : Room} {roomId : RoomId} (h : room.Valid roomId)
    {player : PlayerId} {joinOrdinal : UInt64}
    (hjoin : room.join player joinOrdinal = .ok joined)
    (hfresh : ∀ (other : PlayerId) (member : RoomMember), room.members[other]? = some member →
      member.joinOrdinal < joinOrdinal) : joined.Valid roomId := by
  obtain ⟨-, hplayer, hsize, rfl⟩ := join_eq_ok.mp hjoin
  have hnone : room.members[player]? = none := by
    simpa using hplayer
  obtain ⟨hostMember, hhost, hfirst⟩ := h.host
  exact {
    id := h.id
    capacity := by
      have hle := Std.ExtTreeMap.size_insert_le (t := room.members) (k := player)
        (v := ({ player, joinOrdinal } : RoomMember))
      exact hle.trans hsize
    players := by
      intro other member hmember
      rw [OrderedMap.getElem?_insert] at hmember
      split at hmember
      · rename_i heq
        obtain rfl := Option.some.inj hmember
        exact heq.symm
      · exact h.players other member hmember
    ordinals := by
      intro first second firstMember secondMember hone htwo heq
      rw [OrderedMap.getElem?_insert] at hone htwo
      split at hone
      · rename_i hfirstEq
        split at htwo
        · rename_i hsecondEq
          rw [hfirstEq, hsecondEq]
        · obtain rfl := Option.some.inj hone
          exact absurd heq.symm (hfresh second secondMember htwo).ne
      · split at htwo
        · obtain rfl := Option.some.inj htwo
          exact absurd heq (hfresh first firstMember hone).ne
        · exact h.ordinals first second firstMember secondMember hone htwo heq
    host := by
      refine ⟨hostMember, ?_, ?_⟩
      · rw [OrderedMap.getElem?_insert, if_neg]
        · exact hhost
        · intro heq
          have heq : room.host = player := heq
          rw [heq, hnone] at hhost
          cases hhost
      · intro other member hmember
        rw [OrderedMap.getElem?_insert] at hmember
        split at hmember
        · obtain rfl := Option.some.inj hmember
          exact (hfresh room.host hostMember hhost).le
        · exact hfirst other member hmember }

/-! ## Leaving -/

theorem leave_eq_ok {room remaining : Room} {player : PlayerId} :
    room.leave player = .ok remaining ↔
      room.state = .waiting ∧ player ∈ room.members ∧
        remaining = room.without player := by
  unfold leave
  simp only [Bool.not_eq_true', ← Bool.not_eq_true, contains_iff]
  by_cases hstate : room.state = .waiting
  · by_cases hplayer : player ∈ room.members
    · simp only [hstate, hplayer, ne_eq, not_true_eq_false, if_false, true_and,
        Except.ok.injEq]
      exact eq_comm
    · simp [hstate, hplayer]
  · simp [hstate]

theorem without_members (room : Room) (player : PlayerId) :
    (room.without player).members = room.members.erase player :=
  rfl

theorem mem_without {room : Room} {player other : PlayerId} :
    other ∈ (room.without player).members ↔
      other ≠ player ∧ other ∈ room.members := by
  rw [without_members, Std.ExtTreeMap.mem_erase, ne_eq,
    Std.LawfulEqCmp.compare_eq_iff_eq, ne_comm]

/-- The member that takes over is the most senior of those who stay. -/
theorem without_host {room : Room} {roomId : RoomId} (h : room.Valid roomId)
    {player : PlayerId} (hmore : (room.without player).empty = false) :
    ∃ hostMember, (room.without player).members[(room.without player).host]? =
        some hostMember ∧
      ∀ (other : PlayerId) (member : RoomMember),
        (room.without player).members[other]? = some member →
        hostMember.joinOrdinal ≤ member.joinOrdinal := by
  have hentry : ∀ (other : PlayerId) (member : RoomMember),
      (room.members.erase player)[other]? = some member ↔
        (other, member) ∈ (room.members.erase player).toList := fun _ _ =>
    Std.ExtTreeMap.mem_toList_iff_getElem?_eq_some.symm
  by_cases hhost : player = room.host
  · cases hleast : (room.members.erase player).toList.argmin seniority with
    | none =>
      have hnil := List.argmin_eq_none.mp hleast
      rw [Std.ExtTreeMap.toList_eq_nil_iff] at hnil
      rw [Room.empty, without_members, hnil] at hmore
      simp at hmore
    | some least =>
      have hnew : (room.without player).host = least.1 := by
        simp [without, hhost ▸ hleast, hhost]
      refine ⟨least.2, ?_, ?_⟩
      · rw [hnew, without_members, hentry]
        exact List.argmin_mem hleast
      · intro other member hmember
        rw [without_members, hentry] at hmember
        have hle := List.le_of_mem_argmin hmember hleast
        exact (Prod.Lex.le_iff.mp hle).elim le_of_lt fun heq => heq.1.le
  · obtain ⟨hostMember, hfound, hfirst⟩ := h.host
    refine ⟨hostMember, ?_, ?_⟩
    · rw [without_members, OrderedMap.getElem?_erase]
      simp only [without, if_neg hhost]
      rw [if_neg (Ne.symm hhost)]
      exact hfound
    · intro other member hmember
      rw [without_members, OrderedMap.getElem?_erase] at hmember
      split at hmember
      · cases hmember
      · exact hfirst other member hmember

theorem Valid.without {room : Room} {roomId : RoomId} (h : room.Valid roomId)
    {player : PlayerId} (hmore : (room.without player).empty = false) :
    (room.without player).Valid roomId := by
  have hold : ∀ (other : PlayerId) (member : RoomMember),
      (room.without player).members[other]? = some member →
      room.members[other]? = some member := by
    intro other member hmember
    rw [without_members, OrderedMap.getElem?_erase] at hmember
    split at hmember
    · cases hmember
    · exact hmember
  exact {
    id := h.id
    capacity := by
      rw [without_members]
      exact Std.ExtTreeMap.size_erase_le.trans h.capacity
    players := fun other member hmember =>
      h.players other member (hold other member hmember)
    ordinals := fun first second firstMember secondMember hone htwo heq =>
      h.ordinals first second firstMember secondMember (hold _ _ hone)
        (hold _ _ htwo) heq
    host := without_host h hmore }

/-! ## Readiness and states -/

theorem setReady_eq_ok {room changed : Room} {player : PlayerId} {ready : Bool} :
    room.setReady player ready = .ok changed ↔
      room.state = .waiting ∧ ∃ member, room.members[player]? = some member ∧
        changed = { room with
          members := room.members.insert player { member with ready } } := by
  unfold setReady
  by_cases hstate : room.state = .waiting
  · cases hmember : room.members[player]? with
    | none => simp [hstate]
    | some member =>
      simp only [hstate, ne_eq, not_true_eq_false, if_false, true_and,
        Except.ok.injEq, Option.some.injEq, exists_eq_left']
      exact eq_comm
  · simp [hstate]

theorem Valid.setReady {room changed : Room} {roomId : RoomId}
    (h : room.Valid roomId) {player : PlayerId} {ready : Bool}
    (hchanged : room.setReady player ready = .ok changed) :
    changed.Valid roomId := by
  obtain ⟨-, member, hmember, rfl⟩ := setReady_eq_ok.mp hchanged
  have hold : ∀ (other : PlayerId) (changed : RoomMember),
      (room.members.insert player { member with ready })[other]? = some changed →
      ∃ before, room.members[other]? = some before ∧
        before.player = changed.player ∧
        before.joinOrdinal = changed.joinOrdinal := by
    intro other changed hother
    rw [OrderedMap.getElem?_insert] at hother
    split at hother
    · rename_i heq
      obtain rfl := Option.some.inj hother
      exact ⟨member, heq ▸ hmember, rfl, rfl⟩
    · exact ⟨changed, hother, rfl, rfl⟩
  obtain ⟨hostMember, hhost, hfirst⟩ := h.host
  have hcontains : player ∈ room.members := by
    rw [Std.ExtTreeMap.mem_iff_isSome_getElem?, hmember]
    rfl
  exact {
    id := h.id
    capacity := by
      rw [Std.ExtTreeMap.size_insert,
        if_pos (Std.ExtTreeMap.contains_iff_mem.mpr hcontains)]
      exact h.capacity
    players := by
      intro other changed hother
      obtain ⟨before, hbefore, hplayer, -⟩ := hold other changed hother
      rw [← hplayer]
      exact h.players other before hbefore
    ordinals := by
      intro first second firstMember secondMember hone htwo heq
      obtain ⟨one, hone, -, honeOrdinal⟩ := hold first firstMember hone
      obtain ⟨two, htwo, -, htwoOrdinal⟩ := hold second secondMember htwo
      apply h.ordinals first second one two hone htwo
      rw [honeOrdinal, htwoOrdinal, heq]
    host := by
      by_cases heq : room.host = player
      · refine ⟨{ member with ready }, ?_, ?_⟩
        · rw [OrderedMap.getElem?_insert, if_pos heq]
        · intro other changed hother
          obtain ⟨before, hbefore, -, hordinal⟩ := hold other changed hother
          rw [heq, hmember] at hhost
          obtain rfl := Option.some.inj hhost
          rw [← hordinal]
          exact hfirst other before hbefore
      · refine ⟨hostMember, ?_, ?_⟩
        · rw [OrderedMap.getElem?_insert, if_neg heq]
          exact hhost
        · intro other changed hother
          obtain ⟨before, hbefore, -, hordinal⟩ := hold other changed hother
          rw [← hordinal]
          exact hfirst other before hbefore }

theorem validateStart_eq_none {room : Room} {requester : PlayerId}
    (h : room.validateStart requester = none) :
    room.state = .waiting ∧ requester = room.host ∧
      2 ≤ room.members.size := by
  unfold validateStart at h
  split at h
  · cases h
  · rename_i hstate
    split at h
    · cases h
    · rename_i hhost
      obtain ⟨-, hrequester⟩ := not_or.mp hhost
      split at h
      · cases h
      · rename_i hsize
        exact ⟨not_not.mp hstate, not_not.mp hrequester, not_lt.mp hsize⟩

end Room

end SurvivalArena
