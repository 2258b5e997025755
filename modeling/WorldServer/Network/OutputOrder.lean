import WorldServer.Network.Output

/-!
# The order of the output

The bytes that the peer has, the bytes of the buffer and the bytes of the queue, one after the
other, are the packets in the order in which they were sent. Only one thing breaks this: where the
head of the queue would block, it is put back into a queue that may be full without it, and the
socket does not look whether it was.
-/
namespace WorldServer.Network.OutSocket

open WorldServer.Lib

variable {κ : Type} {next : κ → UInt8 × κ} {opcodeNumber : ℕ → ℕ}
variable {s t : OutSocket κ} {a : Attempt}

/-! ### What the packets should be -/

def encode (next : κ → UInt8 × κ) (opcodeNumber : ℕ → ℕ) (c : SendCrypt κ) (pkt : ServerPacket) :
    List UInt8 × SendCrypt κ :=
  let header := packetHeader next opcodeNumber c pkt
  (header.1 ++ pkt.contents, header.2)

def expected (next : κ → UInt8 × κ) (opcodeNumber : ℕ → ℕ) :
    SendCrypt κ → List (Call κ) → List UInt8
  | _, [] => []
  | c, .sendPacket pkt :: calls =>
    (encode next opcodeNumber c pkt).1 ++
      expected next opcodeNumber (encode next opcodeNumber c pkt).2 calls
  | _, .initCrypt generator :: calls => expected next opcodeNumber (.init generator) calls
  | c, .update _ :: calls => expected next opcodeNumber c calls
  | c, .handle_output _ :: calls => expected next opcodeNumber c calls

def expectedCrypt (next : κ → UInt8 × κ) (opcodeNumber : ℕ → ℕ) :
    SendCrypt κ → List (Call κ) → SendCrypt κ
  | c, [] => c
  | c, .sendPacket pkt :: calls =>
    expectedCrypt next opcodeNumber (encode next opcodeNumber c pkt).2 calls
  | _, .initCrypt generator :: calls => expectedCrypt next opcodeNumber (.init generator) calls
  | c, .update _ :: calls => expectedCrypt next opcodeNumber c calls
  | c, .handle_output _ :: calls => expectedCrypt next opcodeNumber c calls

def stream (s : OutSocket κ) : List UInt8 :=
  s.sent ++ s.m_OutBuffer.data ++ s.msg_queue.flatMap MessageBlock.data

/-- No block of the queue is empty. -/
def Filled (s : OutSocket κ) : Prop := ∀ b ∈ s.msg_queue, b.data ≠ []

/-! ### Lost blocks -/

def SendResult.TakesAll (length : ℕ) : SendResult → Prop
  | .taken n => length ≤ n
  | .wouldBlock => False
  | .error => False

instance (length : ℕ) : ∀ r, Decidable (SendResult.TakesAll length r)
  | .taken n => inferInstanceAs (Decidable (length ≤ n))
  | .wouldBlock => isFalse id
  | .error => isFalse id

def Loses (s : OutSocket κ) (a : Attempt) : Prop :=
  s.closing_ = false ∧
    (s.m_OutBuffer.data = [] ∨ SendResult.TakesAll s.m_OutBuffer.data.length a.buffer) ∧
    a.queue = .wouldBlock ∧ s.msg_queue ≠ [] ∧ isFull s.msg_queue.tail

def LoopLoses (s : OutSocket κ) : List Attempt → Prop
  | [] => s.Loses .blocked
  | a :: attempts =>
    s.Loses a ∨ 0 < (s.handle_output a).2 ∧ (s.handle_output a).1.LoopLoses attempts

def CallLoses (s : OutSocket κ) : Call κ → Prop
  | .update attempts =>
    s.closing_ = false ∧ s.m_OutActive = false ∧
      ¬ (s.m_OutBuffer.data = [] ∧ s.msg_queue = []) ∧ s.LoopLoses attempts
  | .handle_output a => s.Loses a
  | .sendPacket _ => False
  | .initCrypt _ => False

instance (s : OutSocket κ) (a : Attempt) : Decidable (s.Loses a) := by
  unfold Loses
  infer_instance

instance decidableLoopLoses : ∀ (s : OutSocket κ) (attempts), Decidable (s.LoopLoses attempts)
  | s, [] => inferInstanceAs (Decidable (s.Loses .blocked))
  | s, a :: attempts =>
    have := decidableLoopLoses (s.handle_output a).1 attempts
    inferInstanceAs (Decidable (s.Loses a ∨ 0 < (s.handle_output a).2 ∧
      (s.handle_output a).1.LoopLoses attempts))

instance (s : OutSocket κ) : ∀ c, Decidable (s.CallLoses c)
  | .update attempts => inferInstanceAs (Decidable (s.closing_ = false ∧ s.m_OutActive = false ∧
      ¬ (s.m_OutBuffer.data = [] ∧ s.msg_queue = []) ∧ s.LoopLoses attempts))
  | .handle_output a => inferInstanceAs (Decidable (s.Loses a))
  | .sendPacket _ => isFalse id
  | .initCrypt _ => isFalse id

/-! ### What an output does to the stream -/

/-- The output keeps the stream, or loses a block of it. -/
structure Outputs (s : OutSocket κ) (lost : Prop) (t : OutSocket κ) : Prop where
  crypt : t.m_Crypt = s.m_Crypt
  filled : s.Filled → t.Filled
  same : ¬ lost → t.stream = s.stream
  short : s.Filled → lost → t.stream.length < s.stream.length

variable {lost lost' : Prop} {pkt : ServerPacket}

lemma Outputs.refl (s : OutSocket κ) (kept : ¬ lost) : Outputs s lost s :=
  ⟨rfl, id, fun _ => rfl, fun _ isLost => absurd isLost kept⟩

lemma Outputs.wakeup (h : Outputs s lost t) (active : Bool) :
    Outputs s lost { t with m_OutActive := active } :=
  ⟨h.crypt, h.filled, h.same, h.short⟩

lemma Outputs.schedule (h : Outputs s lost t) (reactor : Bool) :
    Outputs s lost (t.schedule_wakeup_output reactor).1 := by
  rw [schedule_wakeup_output]
  split
  · exact h
  · exact h.wakeup true

lemma Outputs.cancel (h : Outputs s lost t) (reactor : Bool) :
    Outputs s lost (t.cancel_wakeup_output reactor).1 := by
  rw [cancel_wakeup_output]
  split
  · exact h.wakeup false
  · exact h

variable {u : OutSocket κ} {queue : List MessageBlock} {attempts : List Attempt}
  {calls : List (Call κ)}

lemma Outputs.trans (first : Outputs s lost t) (second : Outputs t lost' u) :
    Outputs s (lost ∨ lost') u where
  crypt := second.crypt.trans first.crypt
  filled := second.filled ∘ first.filled
  same kept := by
    rw [not_or] at kept
    exact (second.same kept.2).trans (first.same kept.1)
  short filled isLost := by
    have notLonger : u.stream.length ≤ t.stream.length := by
      by_cases second' : lost'
      · exact (second.short (first.filled filled) second').le
      · rw [second.same second']
    by_cases first' : lost
    · exact notLonger.trans_lt (first.short filled first')
    · rw [← first.same first']
      exact second.short (first.filled filled) (isLost.resolve_left first')

lemma Outputs.congr (h : Outputs s lost t) (hs : lost ↔ lost') : Outputs s lost' t := by
  rw [← propext hs]
  exact h

lemma mem_enqueue_head {queue' : List MessageBlock} {mb : MessageBlock}
    (done : enqueue_head queue mb = some queue') : ¬ isFull queue ∧ queue' = mb :: queue := by
  rw [enqueue_head] at done
  split at done
  · cases done
  next free => cases done; exact ⟨free, rfl⟩

lemma outputs_queue (empty : s.m_OutBuffer.data = []) (success : (s.handle_output_queue a).2 ≠ -1) :
    Outputs s (a.queue = .wouldBlock ∧ s.msg_queue ≠ [] ∧ isFull s.msg_queue.tail)
      (s.handle_output_queue a).1 := by
  rw [handle_output_queue] at success ⊢
  cases waiting : s.msg_queue with
  | nil =>
    apply Outputs.cancel
    exact .refl s (by simp)
  | cons mblk queue =>
    simp only [waiting] at success ⊢
    cases answer : a.queue with
    | error =>
      simp only [answer] at success
      exact absurd rfl success
    | wouldBlock =>
      apply Outputs.schedule
      by_cases full : isFull queue
      · -- the head is in no place any more
        simp only [enqueue_head, full, if_true, Option.getD_none]
        constructor
        · rfl
        · intro filled b hm
          exact filled b (waiting ▸ List.mem_cons_of_mem _ hm)
        · intro kept
          exact absurd ⟨trivial, List.cons_ne_nil _ _, full⟩ kept
        · intro filled _
          have some : 0 < mblk.data.length :=
            List.length_pos_iff.mpr (filled mblk (waiting ▸ List.mem_cons_self))
          simp only [stream, waiting, List.flatMap_cons, List.length_append]
          omega
      · simp only [enqueue_head, full, if_false, Option.getD_some]
        rw [← waiting]
        exact .refl s (by simp [waiting, full])
    | taken n =>
      simp only [answer] at success ⊢
      have kept : ¬ (SendResult.taken n = .wouldBlock ∧ mblk :: queue ≠ [] ∧
          isFull (mblk :: queue).tail) := fun lost => by cases lost.1
      by_cases zero : n = 0
      · rw [if_pos zero] at success
        exact absurd rfl success
      · rw [if_neg zero] at success ⊢
        by_cases part : n < mblk.data.length
        · rw [if_pos part] at success ⊢
          cases back : enqueue_head queue (mblk.drop n) with
          | none =>
            rw [back] at success
            exact absurd rfl success
          | some queue' =>
            obtain ⟨_, rfl⟩ := mem_enqueue_head back
            apply Outputs.schedule
            constructor
            · rfl
            · intro filled b hm
              rcases List.mem_cons.mp hm with rfl | later
              · rw [MessageBlock.drop_data, ne_eq, List.drop_eq_nil_iff]
                omega
              · exact filled b (waiting ▸ List.mem_cons_of_mem _ later)
            · intro _
              simp only [stream, waiting, empty, List.flatMap_cons, MessageBlock.drop_data,
                List.append_nil]
              rw [List.append_assoc s.sent, ← List.append_assoc (mblk.data.take n),
                List.take_append_drop]
            · intro _ lost
              exact absurd lost kept
        · -- all of the head is taken
          rw [if_neg part]
          have whole : Outputs s (SendResult.taken n = .wouldBlock ∧ mblk :: queue ≠ [] ∧
              isFull (mblk :: queue).tail)
              { s with msg_queue := queue, sent := s.sent ++ mblk.data.take n } := by
            constructor
            · rfl
            · intro filled b hm
              exact filled b (waiting ▸ List.mem_cons_of_mem _ hm)
            · intro _
              rw [List.take_of_length_le (not_lt.mp part)]
              simp [stream, waiting, empty]
            · intro _ lost
              exact absurd lost kept
          split
          · exact whole.cancel a.reactor
          · exact whole

lemma outputs_handle_output (success : (s.handle_output a).2 ≠ -1) :
    Outputs s (s.Loses a) (s.handle_output a).1 := by
  rw [handle_output] at success ⊢
  by_cases closed : s.closing_ = true
  · rw [if_pos closed] at success
    exact absurd rfl success
  · rw [if_neg closed] at success ⊢
    by_cases empty : s.m_OutBuffer.data = []
    · rw [if_pos empty] at success ⊢
      apply (outputs_queue empty success).congr
      simp [Loses, closed, empty]
    · rw [if_neg empty] at success ⊢
      cases answer : a.buffer with
      | error =>
        simp only [answer] at success
        exact absurd rfl success
      | wouldBlock =>
        apply Outputs.schedule
        exact .refl s (by simp [Loses, empty, answer, SendResult.TakesAll])
      | taken n =>
        simp only [answer] at success ⊢
        by_cases zero : n = 0
        · rw [if_pos zero] at success
          exact absurd rfl success
        · rw [if_neg zero] at success ⊢
          by_cases part : n < s.m_OutBuffer.data.length
          · rw [if_pos part] at success ⊢
            have kept : ¬ s.Loses a := by
              rintro ⟨_, none | all, _⟩
              · exact empty none
              · rw [answer] at all
                exact absurd part (not_lt.mpr all)
            apply Outputs.schedule
            constructor
            · rfl
            · exact id
            · intro _
              simp only [stream, MessageBlock.drop_data]
              rw [List.append_assoc s.sent, List.take_append_drop]
            · intro _ lost
              exact absurd lost kept
          · -- the buffer is empty now, and the queue is tried
            rw [if_neg part] at success ⊢
            have emptied : Outputs s False
                { s with
                  sent := s.sent ++ s.m_OutBuffer.data.take n
                  m_OutBuffer := s.m_OutBuffer.reset } := by
              constructor
              · rfl
              · exact id
              · intro _
                simp only [stream, MessageBlock.reset, MessageBlock.base_data, List.append_nil]
                rw [List.take_of_length_le (not_lt.mp part)]
              · intro _ lost
                exact lost.elim
            apply (emptied.trans (outputs_queue rfl success)).congr
            simp [Loses, closed, answer, SendResult.TakesAll, not_lt.mp part]

lemma outputs_outputLoop (success : (s.outputLoop attempts).2 ≠ -1) :
    Outputs s (s.LoopLoses attempts) (s.outputLoop attempts).1 := by
  induction attempts generalizing s with
  | nil => exact outputs_handle_output success
  | cons a attempts ih =>
    rw [outputLoop] at success ⊢
    by_cases again : (s.handle_output a).2 > 0
    · simp only [if_pos again] at success ⊢
      have one : (s.handle_output a).2 ≠ -1 := by omega
      apply ((outputs_handle_output one).trans (ih success)).congr
      rw [LoopLoses, and_iff_right again]
    · simp only [if_neg again] at success ⊢
      apply (outputs_handle_output success).congr
      simp [LoopLoses, again]

lemma outputs_Update (success : (s.Update attempts).2 ≠ -1) :
    Outputs s (s.CallLoses (.update attempts)) (s.Update attempts).1 := by
  rw [Update] at success ⊢
  split
  next closed =>
    rw [if_pos closed] at success
    exact absurd rfl success
  next isOpen =>
    split
    next active => exact .refl s (by simp [CallLoses, active])
    next inactive =>
      split
      next nothing => exact .refl s fun lost => lost.2.2.1 nothing
      next something =>
        rw [if_neg isOpen, if_neg inactive, if_neg something] at success
        apply (outputs_outputLoop success).congr
        rw [CallLoses, and_iff_right (by simpa using isOpen), and_iff_right (by simpa using inactive),
          and_iff_right something]

lemma copy_packet (b : MessageBlock) {header contents : List UInt8} (size : header.length = 4)
    (space : contents.length + 4 ≤ b.space) :
    ((b.copy header).copy contents).data = b.data ++ (header ++ contents) := by
  have fits := b.fits
  rw [MessageBlock.space] at space
  have fitsHeader : b.data.length + header.length ≤ b.size := by omega
  obtain ⟨sameSize, first⟩ := b.copy_of_fits fitsHeader
  have fitsContents : (b.copy header).data.length + contents.length ≤ (b.copy header).size := by
    rw [sameSize, first, List.length_append]
    omega
  rw [((b.copy header).copy_of_fits fitsContents).2, first, List.append_assoc]

lemma SendPacket_spec (success : (s.SendPacket next opcodeNumber pkt).2 ≠ -1) :
    (s.SendPacket next opcodeNumber pkt).1.m_Crypt = (encode next opcodeNumber s.m_Crypt pkt).2 ∧
    (s.SendPacket next opcodeNumber pkt).1.stream =
      s.stream ++ (encode next opcodeNumber s.m_Crypt pkt).1 ∧
    (s.Filled → (s.SendPacket next opcodeNumber pkt).1.Filled) := by
  have size := length_packetHeader next opcodeNumber s.m_Crypt pkt
  rw [SendPacket] at success ⊢
  by_cases closed : s.closing_ = true
  · rw [if_pos closed] at success
    exact absurd rfl success
  · rw [if_neg closed] at success ⊢
    simp only [encode] at success ⊢
    split
    next room =>
      -- the queue is empty, so that the end of the buffer is the end of the stream
      refine ⟨rfl, ?_, id⟩
      simp only [stream, room.2, List.flatMap_nil, List.append_nil]
      rw [copy_packet _ size room.1, List.append_assoc]
    next noRoom =>
      simp only [if_neg noRoom] at success
      have space : pkt.contents.length + 4 ≤
          (MessageBlock.base (pkt.contents.length + 4)).space := by simp [MessageBlock.space]
      have data := copy_packet _ size space
      rw [MessageBlock.base_data, List.nil_append] at data
      cases queued : enqueue_tail s.msg_queue (((MessageBlock.base (pkt.contents.length + 4)).copy
          (packetHeader next opcodeNumber s.m_Crypt pkt).1).copy pkt.contents) with
      | none =>
        rw [queued] at success
        exact absurd rfl success
      | some queue =>
        rw [enqueue_tail] at queued
        split at queued
        · cases queued
        · cases queued
          refine ⟨rfl, ?_, ?_⟩
          · simp only [stream, List.flatMap_append, List.flatMap_cons, List.flatMap_nil, data,
              List.append_nil, List.append_assoc]
          · intro filled b hm
            rcases List.mem_append.mp hm with old | new
            · exact filled b old
            · rw [List.mem_singleton.mp new, data]
              apply List.append_ne_nil_of_left_ne_nil
              apply List.ne_nil_of_length_pos
              omega

/-! ### Runs -/

lemma expected_cons (c : SendCrypt κ) (a : Call κ) (calls : List (Call κ)) :
    expected next opcodeNumber c (a :: calls) =
      expected next opcodeNumber c [a] ++
        expected next opcodeNumber (expectedCrypt next opcodeNumber c [a]) calls := by
  cases a <;> simp [expected, expectedCrypt]

lemma expectedCrypt_cons (c : SendCrypt κ) (a : Call κ) (calls : List (Call κ)) :
    expectedCrypt next opcodeNumber c (a :: calls) =
      expectedCrypt next opcodeNumber (expectedCrypt next opcodeNumber c [a]) calls := by
  cases a <;> rfl

/-- A call that succeeds adds its packet to the stream, or loses a block of it. -/
structure Adds (s : OutSocket κ) (crypt : SendCrypt κ) (bytes : List UInt8) (lost : Prop)
    (t : OutSocket κ) : Prop where
  crypt : t.m_Crypt = crypt
  filled : s.Filled → t.Filled
  same : ¬ lost → t.stream = s.stream ++ bytes
  short : s.Filled → lost → t.stream.length < (s.stream ++ bytes).length

lemma Outputs.adds (h : Outputs s lost t) : Adds s s.m_Crypt [] lost t where
  crypt := h.crypt
  filled := h.filled
  same kept := by rw [h.same kept, List.append_nil]
  short filled isLost := by
    rw [List.append_nil]
    exact h.short filled isLost

lemma adds_call {c : Call κ} (success : (s.call next opcodeNumber c).2 ≠ -1) :
    Adds s (expectedCrypt next opcodeNumber s.m_Crypt [c]) (expected next opcodeNumber s.m_Crypt [c])
      (s.CallLoses c) (s.step next opcodeNumber c) := by
  cases c with
  | sendPacket pkt =>
    obtain ⟨crypt, stream, filled⟩ := SendPacket_spec success
    constructor
    · exact crypt
    · exact filled
    · intro _
      rw [expected, expected, List.append_nil]
      exact stream
    · intro _ lost
      exact lost.elim
  | update attempts => exact (outputs_Update success).adds
  | handle_output a => exact (outputs_handle_output success).adds
  | initCrypt generator =>
    constructor
    · rfl
    · exact id
    · intro _
      rw [expected, expected, List.append_nil]
      rfl
    · intro _ lost
      exact lost.elim

lemma Adds.trans {crypt crypt' : SendCrypt κ} {bytes bytes' : List UInt8}
    (first : Adds s crypt bytes lost t) (second : Adds t crypt' bytes' lost' u) :
    Adds s crypt' (bytes ++ bytes') (lost ∨ lost') u where
  crypt := second.crypt
  filled := second.filled ∘ first.filled
  same kept := by
    rw [not_or] at kept
    rw [second.same kept.2, first.same kept.1, List.append_assoc]
  short filled isLost := by
    have notLonger : u.stream.length ≤ (t.stream ++ bytes').length := by
      by_cases second' : lost'
      · exact (second.short (first.filled filled) second').le
      · rw [second.same second']
    rw [List.length_append] at notLonger
    rw [List.length_append, List.length_append]
    by_cases first' : lost
    · have shorter := first.short filled first'
      rw [List.length_append] at shorter
      omega
    · have equal := congrArg List.length (first.same first')
      have shorter := second.short (first.filled filled) (isLost.resolve_left first')
      rw [List.length_append] at equal shorter
      omega

/-- Every call of a run succeeds. -/
def Succeeds (next : κ → UInt8 × κ) (opcodeNumber : ℕ → ℕ) (s : OutSocket κ) (c : Call κ) : Prop :=
  (s.call next opcodeNumber c).2 ≠ -1

instance (s : OutSocket κ) (c : Call κ) : Decidable (Succeeds next opcodeNumber s c) :=
  inferInstanceAs (Decidable ((s.call next opcodeNumber c).2 ≠ -1))

lemma adds_run (success : Along (step next opcodeNumber) (Succeeds next opcodeNumber) s calls) :
    Adds s (expectedCrypt next opcodeNumber s.m_Crypt calls)
      (expected next opcodeNumber s.m_Crypt calls)
      (¬ Along (step next opcodeNumber) (fun s c => ¬ s.CallLoses c) s calls)
      (run (step next opcodeNumber) s calls) := by
  induction calls generalizing s with
  | nil => exact (Outputs.refl s (by simp)).adds
  | cons c calls ih =>
    obtain ⟨first, rest⟩ := success
    have one := adds_call first
    have more := ih rest
    rw [one.crypt] at more
    rw [expected_cons, expectedCrypt_cons, along_cons, run_cons, not_and_or, not_not]
    exact one.trans more

lemma stream_ne_of_lost {m_OutBufferSize : ℕ} {generator : κ}
    (success : Along (step next opcodeNumber) (Succeeds next opcodeNumber)
      (opened m_OutBufferSize generator) calls)
    (lost : ¬ Along (step next opcodeNumber) (fun s c => ¬ s.CallLoses c)
      (opened m_OutBufferSize generator) calls) :
    (run (step next opcodeNumber) (opened m_OutBufferSize generator) calls).stream ≠
      expected next opcodeNumber ⟨generator, false⟩ calls := by
  intro stream
  have shorter := (adds_run success).short (fun b hm => absurd hm List.not_mem_nil) lost
  rw [stream] at shorter
  exact lt_irrefl _ shorter

/-- In a run in which no call fails, the peer, the buffer and the queue hold the packets in their
order, if and only if no head is put back into a queue that is full without it. -/
theorem output_order (next : κ → UInt8 × κ) (opcodeNumber : ℕ → ℕ) (m_OutBufferSize : ℕ)
    (generator : κ) (calls : List (Call κ))
    (success : Along (step next opcodeNumber) (Succeeds next opcodeNumber)
      (opened m_OutBufferSize generator) calls) :
    ((run (step next opcodeNumber) (opened m_OutBufferSize generator) calls).stream =
        expected next opcodeNumber ⟨generator, false⟩ calls ∧
      (run (step next opcodeNumber) (opened m_OutBufferSize generator) calls).m_Crypt =
        expectedCrypt next opcodeNumber ⟨generator, false⟩ calls) ↔
      Along (step next opcodeNumber) (fun s c => ¬ s.CallLoses c)
        (opened m_OutBufferSize generator) calls := by
  constructor
  · rintro ⟨stream, _⟩
    by_contra lost
    exact stream_ne_of_lost success lost stream
  · intro kept
    have adds := adds_run success
    exact ⟨adds.same (not_not_intro kept), adds.crypt⟩

/-- A packet that fills the buffer, one that waits in the queue, and two outputs -/
theorem output_order_two :
    let calls : List (Call UInt8) :=
      [.sendPacket ⟨5, [1, 2]⟩, .initCrypt 7, .sendPacket ⟨6, [3]⟩,
        .handle_output ⟨.taken 4, .wouldBlock, true⟩, .handle_output ⟨.taken 9, .taken 2, true⟩]
    Along (step (fun k => (k, k + 1)) id) (Succeeds (fun k => (k, k + 1)) id) (opened 8 0) calls ∧
      (((run (step (fun k => (k, k + 1)) id) (opened 8 0) calls).stream =
          expected (fun k => (k, k + 1)) id ⟨0, false⟩ calls ∧
        (run (step (fun k => (k, k + 1)) id) (opened 8 0) calls).m_Crypt =
          expectedCrypt (fun k => (k, k + 1)) id ⟨0, false⟩ calls) ↔
        Along (step (fun k => (k, k + 1)) id) (fun s c => ¬ s.CallLoses c) (opened 8 0) calls) :=
  ⟨by decide, output_order _ _ _ _ _ (by decide)⟩

/-! ### A queue that is full without its head -/

lemma copy_size (b : MessageBlock) (bytes : List UInt8) : (b.copy bytes).size = b.size := by
  rw [MessageBlock.copy]
  split <;> rfl

lemma SendPacket_queued (next : κ → UInt8 × κ) (opcodeNumber : ℕ → ℕ)
    (isOpen : s.closing_ = false) (noRoom : s.m_OutBuffer.space < pkt.contents.length + 4)
    (free : ¬ isFull s.msg_queue) :
    Succeeds next opcodeNumber s (.sendPacket pkt) ∧
      ∃ b : MessageBlock, b.size = pkt.contents.length + 4 ∧
        s.step next opcodeNumber (.sendPacket pkt) =
          { s with
            m_Crypt := (packetHeader next opcodeNumber s.m_Crypt pkt).2
            msg_queue := s.msg_queue ++ [b] } := by
  have notRoom : ¬ (pkt.contents.length + 4 ≤ s.m_OutBuffer.space ∧ s.msg_queue = []) :=
    fun room => absurd room.1 (not_le.mpr noRoom)
  rw [Succeeds, step, call, SendPacket]
  simp only [isOpen, Bool.false_eq_true, if_false, if_neg notRoom, enqueue_tail, if_neg free]
  refine ⟨by simp, _, ?_, rfl⟩
  rw [copy_size, copy_size, MessageBlock.base_size]

lemma queueBytes_append (queue queue' : List MessageBlock) :
    queueBytes (queue ++ queue') = queueBytes queue + queueBytes queue' := by
  simp [queueBytes]

lemma send_many (n : ℕ) {mblk : MessageBlock} (isOpen : s.closing_ = false)
    (noRoom : s.m_OutBuffer.space < pkt.contents.length + 4) (waiting : s.msg_queue = mblk :: queue)
    (free : ∀ k < n, queueBytes s.msg_queue + k * (pkt.contents.length + 4) < high_water_mark) :
    Along (step next opcodeNumber) (Succeeds next opcodeNumber) s
        (List.replicate n (.sendPacket pkt)) ∧
      ∃ crypt queue', queueBytes queue' = queueBytes queue + n * (pkt.contents.length + 4) ∧
        run (step next opcodeNumber) s (List.replicate n (.sendPacket pkt)) =
          { s with m_Crypt := crypt, msg_queue := mblk :: queue' } := by
  induction n generalizing s queue with
  | zero =>
    refine ⟨trivial, s.m_Crypt, queue, by omega, ?_⟩
    rw [List.replicate_zero, run_nil, ← waiting]
  | succ n ih =>
    have notFull : ¬ isFull s.msg_queue := by
      have now := free 0 (Nat.succ_pos n)
      rw [isFull]
      omega
    obtain ⟨success, b, size, sent⟩ := SendPacket_queued next opcodeNumber isOpen noRoom notFull
    have bytes : queueBytes [b] = pkt.contents.length + 4 := by simp [queueBytes, size]
    have more := @ih (s.step next opcodeNumber (.sendPacket pkt)) (queue ++ [b])
    rw [sent] at more
    obtain ⟨rest, crypt, queue', total, after⟩ := more isOpen noRoom
      (by rw [waiting, List.cons_append]) (by
        intro k less
        have later := free (k + 1) (by omega)
        rw [Nat.succ_mul] at later
        simp only [queueBytes_append, bytes]
        omega)
    rw [List.replicate_succ, along_cons, run_cons, sent]
    refine ⟨⟨success, rest⟩, crypt, queue', ?_, after⟩
    rw [total, queueBytes_append, bytes, Nat.succ_mul]
    omega

def emptyPacket : ServerPacket := ⟨0, []⟩

def largePacket : ServerPacket := ⟨0, List.replicate 65532 0⟩

/-- The queue holds an empty packet and 8 MiB of other packets when its head would block. The
empty packet is lost, and every call succeeded. -/
theorem not_output_order : ¬ ∀ (κ : Type) (next : κ → UInt8 × κ) (opcodeNumber : ℕ → ℕ)
    (m_OutBufferSize : ℕ) (generator : κ) (calls : List (Call κ)),
    Along (step next opcodeNumber) (Succeeds next opcodeNumber)
      (opened m_OutBufferSize generator) calls →
    (run (step next opcodeNumber) (opened m_OutBufferSize generator) calls).stream =
        expected next opcodeNumber ⟨generator, false⟩ calls ∧
      (run (step next opcodeNumber) (opened m_OutBufferSize generator) calls).m_Crypt =
        expectedCrypt next opcodeNumber ⟨generator, false⟩ calls := by
  intro claim
  let next : UInt8 → UInt8 × UInt8 := fun k => (k, k)
  have large : largePacket.contents.length + 4 = 65536 := by
    rw [largePacket, List.length_replicate]
  -- a buffer of one byte holds no packet
  have room : (opened 1 (0 : UInt8)).m_OutBuffer.space < emptyPacket.contents.length + 4 := by decide
  obtain ⟨one, b, size, sent⟩ := SendPacket_queued next id rfl room (by decide)
  have bytes : queueBytes [b] = 4 := by
    rw [queueBytes, List.map_singleton, List.sum_singleton, size]
    rfl
  have isOpen : ((opened 1 0).step next id (.sendPacket emptyPacket)).closing_ = false := by
    rfl
  have roomLarge : ((opened 1 0).step next id (.sendPacket emptyPacket)).m_OutBuffer.space <
      largePacket.contents.length + 4 := by
    rw [sent, large]
    exact (by decide : (MessageBlock.base 1).space < 65536)
  have waiting : ((opened 1 0).step next id (.sendPacket emptyPacket)).msg_queue = [b] := by
    rw [sent]
    rfl
  obtain ⟨many, crypt, queue, total, after⟩ :=
    send_many 128 isOpen roomLarge waiting fun k less => by
      rw [waiting, bytes, large, high_water_mark]
      omega
  have full : isFull queue := by
    rw [isFull, total, large]
    decide
  have success : Along (step next id) (Succeeds next id) (opened 1 0)
      (.sendPacket emptyPacket :: List.replicate 128 (.sendPacket largePacket) ++
        [.handle_output .blocked]) := by
    rw [List.cons_append, along_cons, along_append]
    refine ⟨one, many, ?_, trivial⟩
    rw [after, Succeeds, sent]
    exact (by decide : (0 : ℤ) ≠ -1)
  apply stream_ne_of_lost success
  · intro kept
    rw [List.cons_append, along_cons, along_append] at kept
    obtain ⟨_, _, last, _⟩ := kept
    rw [after, sent] at last
    exact last ⟨rfl, .inl rfl, rfl, List.cons_ne_nil _ _, full⟩
  · exact (claim UInt8 next id 1 0 _ success).1

end WorldServer.Network.OutSocket
