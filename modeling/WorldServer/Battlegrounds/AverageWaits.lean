import Mathlib.Data.List.GetD
import WorldServer.Battlegrounds.BattlegroundQueue

/-!
# Average waiting times

For each team and bracket a queue keeps the last ten waiting times in a ring, and their sum.
-/
namespace WorldServer.Battlegrounds

def getMSTimeDiff (oldMSTime newMSTime : UInt32) : UInt32 :=
  if oldMSTime > newMSTime then (0xFFFFFFFF - oldMSTime) + newMSTime else newMSTime - oldMSTime

/-- What is kept for a team and a bracket. The ring has ten places. -/
structure WaitTimes where
  m_WaitTimes : ℕ → UInt32
  m_SumOfWaitTimes : UInt32
  m_WaitTimeLastPlayer : ℕ

/-- Rated arenas count for the horde, other arenas for the alliance. -/
def GroupQueueInfo.team_index (ginfo : GroupQueueInfo) : Battlegrounds.Team :=
  if ginfo.ArenaType = 0 then ginfo.Team else if ginfo.IsRated then .horde else .alliance

structure Invitation where
  ginfo : GroupQueueInfo
  bracket_id : BattlegroundBracketId
  now : UInt32

def Invitation.timeInQueue (x : Invitation) : UInt32 := getMSTimeDiff x.ginfo.JoinTime x.now

abbrev Waits := Team × BattlegroundBracketId → WaitTimes

def WaitTimes.add (w : WaitTimes) (timeInQueue : UInt32) : WaitTimes where
  m_WaitTimes := Function.update w.m_WaitTimes w.m_WaitTimeLastPlayer timeInQueue
  m_SumOfWaitTimes := w.m_SumOfWaitTimes - w.m_WaitTimes w.m_WaitTimeLastPlayer + timeInQueue
  m_WaitTimeLastPlayer := (w.m_WaitTimeLastPlayer + 1) % 10

def PlayerInvitedToBGUpdateAverageWaitTime (waits : Waits) (x : Invitation) : Waits :=
  let cell := (x.ginfo.team_index, x.bracket_id)
  Function.update waits cell ((waits cell).add x.timeInQueue)

def GetAverageQueueWaitTime (waits : Waits) (ginfo : GroupQueueInfo)
    (bracket_id : BattlegroundBracketId) : UInt32 :=
  let w := waits (ginfo.team_index, bracket_id)
  -- the last place of the ring tells whether there are enough values
  if w.m_WaitTimes 9 ≠ 0 then w.m_SumOfWaitTimes / 10 else 0

def invited (xs : List Invitation) : Waits :=
  xs.foldl PlayerInvitedToBGUpdateAverageWaitTime fun _ => ⟨fun _ => 0, 0, 0⟩

/-- Ten zeros, and the waiting times of a team and a bracket in the order of the invitations -/
def timesOf (xs : List Invitation) (cell : Team × BattlegroundBracketId) : List UInt32 :=
  List.replicate 10 0 ++ (xs.filter fun x => (x.ginfo.team_index, x.bracket_id) = cell).map
    Invitation.timeInQueue

def sumOfLastTen (times : List UInt32) : UInt32 :=
  (times.drop (times.length - 10)).foldl (· + ·) 0

/-- The ring has the last ten times, each at its place, and their sum. -/
structure WaitTimes.Tracks (w : WaitTimes) (times : List UInt32) : Prop where
  full : 10 ≤ times.length
  last : w.m_WaitTimeLastPlayer = times.length % 10
  entry : ∀ k < times.length, times.length ≤ k + 10 → w.m_WaitTimes (k % 10) = times.getD k 0
  sum : w.m_SumOfWaitTimes = sumOfLastTen times

lemma foldl_add (times : List UInt32) (first : UInt32) :
    times.foldl (· + ·) first = first + times.foldl (· + ·) 0 := by
  induction times generalizing first with
  | nil => simp
  | cons t times ih => rw [List.foldl_cons, List.foldl_cons, ih, ih (0 + t)]; simp [UInt32.add_assoc]

lemma WaitTimes.Tracks.add {w : WaitTimes} {times : List UInt32} (tracks : w.Tracks times)
    (t : UInt32) : (w.add t).Tracks (times ++ [t]) := by
  obtain ⟨full, last, entry, sum⟩ := tracks
  constructor
  · simp; omega
  · simp [WaitTimes.add, last]
  · intro k inside near
    rw [List.length_append, List.length_singleton] at inside near
    simp only [WaitTimes.add, last]
    by_cases new : k = times.length
    · simp [new]
    · rw [Function.update_of_ne (by omega), entry k (by omega) (by omega),
        List.getD_append _ _ _ _ (by omega)]
  · -- the oldest of the ten leaves the sum
    have oldest : times.length - 10 < times.length := by omega
    have place : times.length % 10 = (times.length - 10) % 10 := by omega
    have next : times.length + 1 - 10 = times.length - 10 + 1 := by omega
    simp only [WaitTimes.add, last, sum, sumOfLastTen, List.length_append, List.length_singleton]
    rw [place, entry _ oldest (by omega), List.getD_eq_getElem _ _ oldest, next,
      List.drop_append_of_le_length (by omega), List.drop_eq_getElem_cons oldest, List.foldl_cons,
      List.foldl_append, foldl_add]
    simp [UInt32.add_comm]

lemma tracks_invited (xs : List Invitation) (cell : Team × BattlegroundBracketId) :
    (invited xs cell).Tracks (timesOf xs cell) := by
  induction xs using List.reverseRecOn with
  | nil =>
    exact ⟨le_rfl, by simp [invited, timesOf],
      fun _ inside _ => (List.getD_replicate _ inside).symm, rfl⟩
  | append_singleton xs x ih =>
    rw [invited, List.foldl_append, ← invited, timesOf, List.filter_append, List.map_append,
      ← List.append_assoc, ← timesOf]
    by_cases own : (x.ginfo.team_index, x.bracket_id) = cell
    · subst own
      simpa [PlayerInvitedToBGUpdateAverageWaitTime] using ih.add _
    · simpa [PlayerInvitedToBGUpdateAverageWaitTime, own, Function.update_of_ne (Ne.symm own)] using ih

/-- The ring has the last ten waiting times and their sum. The average is that of these ten, and not
given while the time at the end of the ring is zero. -/
theorem average_of_last_ten (xs : List Invitation) (ginfo : GroupQueueInfo)
    (bracket_id : BattlegroundBracketId) :
    let times := timesOf xs (ginfo.team_index, bracket_id)
    (invited xs (ginfo.team_index, bracket_id)).Tracks times ∧
      GetAverageQueueWaitTime (invited xs) ginfo bracket_id =
        if times.getD (times.length / 10 * 10 - 1) 0 ≠ 0 then sumOfLastTen times / 10 else 0 := by
  intro times
  have tracks : (invited xs (ginfo.team_index, bracket_id)).Tracks times := tracks_invited xs _
  refine ⟨tracks, ?_⟩
  obtain ⟨full, -, entry, sum⟩ := tracks
  have ninth := entry (times.length / 10 * 10 - 1) (by omega) (by omega)
  rw [show (times.length / 10 * 10 - 1) % 10 = 9 by omega] at ninth
  rw [GetAverageQueueWaitTime, ninth, sum]

end WorldServer.Battlegrounds
