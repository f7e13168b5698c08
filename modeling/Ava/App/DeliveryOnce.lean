/-
  Ava.App.DeliveryOnce
  **A RESULT IS INTEGRATED AT MOST ONCE.**  However the calls of `deliver` for a job fail and
  are repeated, at most one of the user messages they leave in the parent's history gets a
  committed turn that ends the exchange, and no more attempts are recorded than allowed.

  The argument: every message of the delivery carries one fingerprint, because the result it is
  computed from does not change.  So the search of a later call sees every earlier message, and
  a new attempt starts only in a history where none of them was answered.  The new message
  closes all of them, so nothing but itself can be answered from then on.

    - §1 what the search finds; §2 the coordinator's answers; §3 what is kept;
    - §4 each step keeps it; §5 at most one integration.
-/
import Ava.App.SubagentDelivery

namespace Ava.App.Delivery

open Ava.Core Ava.Core.Json Ava.Lib Ava.Session Ava.Agent

/-! ## §1. What the search finds. -/

variable {since : List SessionEntry} {entry : SessionEntry}

theorem commitsAnswer_of_commitsAnswer (h : CommitsAnswer since entry) :
    commitsAnswer since entry = true := by
  obtain ⟨htype, commit, hcommit, hfinish, hcalls⟩ := h
  unfold commitsAnswer
  rw [htype, hcommit]
  simp only [beq_self_eq_true, Bool.true_and, Bool.and_eq_true, bne_iff_ne, ne_eq,
    Bool.not_eq_true', List.any_eq_false, Bool.not_eq_true]
  exact ⟨hfinish, hcalls⟩

theorem not_isPrompt_of_commitsAnswer (h : CommitsAnswer since entry) : isPrompt entry = false := by
  unfold isPrompt
  rw [h.1]
  rfl

/-- The inner loop finds an answer if there is one. -/
theorem committedAfter_isSome {mid rest : List SessionEntry}
    (hmid : ∀ x ∈ mid, isPrompt x = false) (hanswer : CommitsAnswer (since ++ mid) entry) :
    (committedAfter since (mid ++ entry :: rest)).isSome = true := by
  induction mid generalizing since with
  | nil =>
    rw [List.append_nil] at hanswer
    rw [List.nil_append, committedAfter, not_isPrompt_of_commitsAnswer hanswer,
      commitsAnswer_of_commitsAnswer hanswer]
    rfl
  | cons x mid ih =>
    rw [List.cons_append, committedAfter, hmid x List.mem_cons_self]
    -- Either `x` is an answer itself, or the loop goes on behind it.
    by_cases hx : commitsAnswer since x = true
    · rw [hx]
      rfl
    · rw [Bool.not_eq_true] at hx
      rw [hx]
      refine ih (fun y hy => hmid y (List.mem_cons_of_mem x hy)) ?_
      rw [List.append_assoc]
      exact hanswer

theorem isDeliveryMessage_of_provenance {sax : SaxParser}
    {provenance : SyntheticDeliveryProvenance}
    (h : parseSyntheticDeliveryProvenance sax entry = .ok (some provenance)) :
    isDeliveryMessage sax provenance.deliveryId provenance.promptFingerprint entry = true := by
  unfold isDeliveryMessage
  rw [h]
  simp [type_of_provenance h, source_of_provenance h]

/-- **THE SEARCH MISSES NO INTEGRATION**, if the messages carry the fingerprint it asks for. -/
theorem committedDeliveryTurn_isSome {sax : SaxParser} {deliveryId print : Bytes}
    {history : List SessionEntry} {i : Nat}
    (hprint : ∀ entry ∈ history, ∀ provenance,
      parseSyntheticDeliveryProvenance sax entry = .ok (some provenance) →
      provenance.deliveryId = deliveryId → provenance.promptFingerprint = print)
    (h : (integration sax deliveryId).AnsweredAt history i) :
    (committedDeliveryTurn sax deliveryId print history).isSome = true := by
  obtain ⟨_, mid, entry, rest, rfl, ⟨before, message, rfl, -, hasks, hmid⟩, hanswer⟩ := h
  replace hmid : ∀ x ∈ mid, isPrompt x = false := fun x hx => Bool.not_eq_true _ ▸ hmid x hx
  clear i
  induction before with
  | nil =>
    obtain ⟨provenance, hparse, rfl⟩ := hasks
    have hmessage := isDeliveryMessage_of_provenance hparse
    rw [hprint message (by simp) provenance hparse rfl] at hmessage
    rw [List.nil_append, List.cons_append, committedDeliveryTurn, if_pos hmessage]
    have hfound : (committedAfter [] (mid ++ entry :: rest)).isSome = true :=
      committedAfter_isSome hmid hanswer
    obtain ⟨turn, hturn⟩ := Option.isSome_iff_exists.mp hfound
    rw [hturn]
    rfl
  | cons x before ih =>
    have hrest := ih fun e he => hprint e (List.mem_cons_of_mem x he)
    rw [List.cons_append, List.cons_append, committedDeliveryTurn]
    split
    next =>
      split
      next => rfl
      next => exact hrest
    next => exact hrest

/-! ## §2. The coordinator's answers. -/

variable {w : World} {parentSessionId jobId : Bytes} {j : SubagentJob}

theorem World.findOwned_eq_ok (h : w.findOwned parentSessionId jobId = .ok j) :
    w.present = true ∧ j = w.job := by
  unfold World.findOwned at h
  split at h
  next hfound => exact ⟨hfound.1, (Except.ok.inj h).symm⟩
  next => cases h

variable {w' : World}

theorem World.recordDeliveryAttempt_eq_ok {attempt : DeliveryAttempt}
    (h : w.recordDeliveryAttempt parentSessionId jobId attempt = .ok w') :
    w.present = true ∧ ∃ state, w.job.state.recordDeliveryAttempt attempt = .ok state ∧
      w' = { w with job := { w.job with state } } := by
  obtain ⟨-, -, h⟩ := bind_eq_ok h
  obtain ⟨-, -, h⟩ := bind_eq_ok h
  obtain ⟨j, hfound, h⟩ := bind_eq_ok h
  obtain ⟨state, hstate, h⟩ := bind_eq_ok h
  obtain ⟨hpresent, rfl⟩ := findOwned_eq_ok hfound
  exact ⟨hpresent, state, hstate, (Except.ok.inj h).symm⟩

variable {s s' : JobState}

/-- After a call of `record_delivery_attempt` that succeeds there is an attempt. -/
theorem attempted_of_recorded {attempt : DeliveryAttempt}
    (h : s.recordDeliveryAttempt attempt = .ok s') : s'.deliveryAttemptHistory ≠ [] := by
  intro hempty
  unfold JobState.recordDeliveryAttempt at h
  split at h
  next => cases h
  split at h
  next hrepeated =>
    -- The attempt is the last one already.
    split at h
    next => cases h
    obtain rfl := Except.ok.inj h
    rw [hempty] at hrepeated
    cases hrepeated
  split at h
  next => cases h
  obtain rfl := Except.ok.inj h
  simp at hempty

variable {attemptId : Bytes}

theorem kept_acknowledge {committedTurnId : Bytes}
    (h : s.acknowledgeDelivery attemptId committedTurnId = .ok s') : s.Kept s' := by
  obtain rfl | ⟨-, -, -, rfl⟩ := JobState.acknowledgeDelivery_cases h
  · exact .refl _
  · exact ⟨rfl, rfl, rfl, rfl, fun _ => rfl⟩

theorem kept_exhaust (h : s.exhaustDelivery attemptId = .ok s') : s.Kept s' := by
  obtain rfl | ⟨-, rfl⟩ := JobState.exhaustDelivery_cases h
  · exact .refl _
  · exact ⟨rfl, rfl, rfl, rfl, fun _ => rfl⟩

theorem SubagentJob.kept_refl (j : SubagentJob) : j.Kept j := ⟨.refl _, id, fun _ => rfl⟩

/-- An acknowledgement changes the job, and nothing a delivery depends on. -/
theorem World.acknowledgeDelivery_eq_ok {committedTurnId : Bytes}
    (h : w.acknowledgeDelivery parentSessionId jobId attemptId committedTurnId = .ok w') :
    ∃ j, w.job.Kept j ∧ w' = { w with job := j } := by
  obtain ⟨-, -, h⟩ := bind_eq_ok h
  obtain ⟨-, -, h⟩ := bind_eq_ok h
  obtain ⟨j, hfound, h⟩ := bind_eq_ok h
  obtain ⟨state, hstate, h⟩ := bind_eq_ok h
  obtain ⟨-, rfl⟩ := findOwned_eq_ok hfound
  exact ⟨{ w.job with state }, ⟨kept_acknowledge hstate,
    (JobState.Section.acknowledge _ _ hstate).sound, fun _ => rfl⟩, (Except.ok.inj h).symm⟩

theorem World.exhaustDelivery_eq_ok
    (h : w.exhaustDelivery parentSessionId jobId attemptId = .ok w') :
    ∃ j, w.job.Kept j ∧ w' = { w with job := j } := by
  obtain ⟨-, -, h⟩ := bind_eq_ok h
  obtain ⟨j, hfound, h⟩ := bind_eq_ok h
  obtain ⟨state, hstate, h⟩ := bind_eq_ok h
  obtain ⟨-, rfl⟩ := findOwned_eq_ok hfound
  exact ⟨{ w.job with state }, ⟨kept_exhaust hstate, (JobState.Section.exhaust _ hstate).sound,
    fun _ => rfl⟩, (Except.ok.inj h).symm⟩

/-- The prompt depends on nothing but the identity, the execution state and the report. -/
theorem fingerprint_congr {j' : SubagentJob} (hjob : j'.state.jobId = j.state.jobId)
    (hdelivery : j'.state.deliveryId = j.state.deliveryId)
    (hexecution : j'.state.execution = j.state.execution) (hreport : j'.report = j.report) :
    fingerprint j' = fingerprint j := by
  unfold fingerprint deliveryPrompt
  rw [hjob, hdelivery, hexecution, hreport]

/-- A terminal job keeps its fingerprint. -/
theorem fingerprint_kept {j' : SubagentJob} (h : j.Kept j')
    (hterminal : j.state.execution.terminal = true) : fingerprint j' = fingerprint j :=
  fingerprint_congr h.state.jobId h.state.deliveryId (h.state.execution hterminal)
    (h.report hterminal)

/-- A job that waits for its delivery is terminal. -/
theorem terminal_of_isPending (hs : s.Sound) (hpending : s.delivery.isPending = true) :
    s.execution.terminal = true := by
  by_contra hopen
  rw [Bool.not_eq_true] at hopen
  rw [(hs.unfinished hopen).1] at hpending
  cases hpending

/-! ## §3. What is kept. -/

section

variable (sax : SaxParser) (maxDeliveryAttempts : Nat)

/-- A snapshot that makes the prompt the job makes. -/
structure SamePrompt (w : World) (snapshot : SubagentJob) : Prop where
  terminal : w.job.state.execution.terminal = true
  deliveryId : snapshot.state.deliveryId = w.job.state.deliveryId
  fingerprint : Delivery.fingerprint snapshot = Delivery.fingerprint w.job

/-- A snapshot that no attempt has overtaken. -/
structure Current (w : World) (snapshot : SubagentJob) : Prop extends SamePrompt w snapshot where
  attempts : snapshot.state.deliveryAttempts = w.job.state.deliveryAttempts
  history : snapshot.state.deliveryAttemptHistory = w.job.state.deliveryAttemptHistory

/-- No message of the delivery is answered. -/
def Unanswered (w : World) : Prop := ∀ i, ¬ (w.dialogue sax).AnsweredAt w.history i

/-- What holds where the worker is. -/
def PlaceOk (w : World) : Prop :=
  match w.place with
  | .idle | .acknowledging _ _ _ | .exhausting _ _ => True
  | .loading snapshot => w.present = true → Current w snapshot
  | .preparing snapshot =>
    w.present = true → Current w snapshot ∧
      snapshot.state.deliveryAttempts < maxDeliveryAttempts ∧ Unanswered sax w
  | .recorded snapshot _ =>
    SamePrompt w snapshot ∧ w.job.state.deliveryAttemptHistory ≠ [] ∧ Unanswered sax w
  | .running _ _ =>
    -- The message of this run is the last one, and the only one that may be answered.
    ∃ n, (w.dialogue sax).AskedAt w.history n ∧
      (∀ i, (w.dialogue sax).AskedAt w.history i → i ≤ n) ∧
      ∀ i, (w.dialogue sax).AnsweredAt w.history i → i = n

/-- **THE INVARIANT.** -/
structure Inv (w : World) : Prop where
  sound : w.job.state.Sound
  counted : w.job.state.deliveryAttempts = w.job.state.deliveryAttemptHistory.length
  bounded : w.job.state.deliveryAttempts ≤ maxDeliveryAttempts
  attempted : ∀ attempt ∈ w.job.state.deliveryAttemptHistory,
    w.job.state.execution.terminal = true ∧ attempt.promptFingerprint = fingerprint w.job
  posted : ∀ entry ∈ w.history, ∀ provenance,
    parseSyntheticDeliveryProvenance sax entry = .ok (some provenance) →
    provenance.deliveryId = w.job.state.deliveryId →
    isPrompt entry = true ∧ provenance.promptFingerprint = fingerprint w.job ∧
      w.job.state.deliveryAttemptHistory ≠ []
  once : (w.dialogue sax).AtMostOneAnswered w.history
  place : PlaceOk sax maxDeliveryAttempts w

end

section

variable {sax : SaxParser} {maxDeliveryAttempts : Nat} {snapshot : SubagentJob}
  (hkept : w.job.Kept w'.job)

include hkept

/-- A change of the job that keeps what deliveries depend on keeps the integrations. -/
theorem dialogue_kept : w'.dialogue sax = w.dialogue sax := by
  unfold World.dialogue
  rw [hkept.state.deliveryId]

theorem SamePrompt.kept (h : SamePrompt w snapshot) : SamePrompt w' snapshot where
  terminal := by
    rw [hkept.state.execution h.terminal]
    exact h.terminal
  deliveryId := h.deliveryId.trans hkept.state.deliveryId.symm
  fingerprint := h.fingerprint.trans (fingerprint_kept hkept h.terminal).symm

theorem Current.kept (h : Current w snapshot) : Current w' snapshot where
  toSamePrompt := h.toSamePrompt.kept hkept
  attempts := h.attempts.trans hkept.state.attempts.symm
  history := h.history.trans hkept.state.history.symm

/-- The worker's place as long as the delivery has no new message and no new answer. -/
theorem PlaceOk.kept (h : PlaceOk sax maxDeliveryAttempts w) (hplace : w'.place = w.place)
    (hpresent : w'.present = true → w.present = true) (hgrow : w.history <+: w'.history)
    (hasked : ∀ i, (w.dialogue sax).AskedAt w'.history i → (w.dialogue sax).AskedAt w.history i)
    (hanswered : ∀ i, (w.dialogue sax).AnsweredAt w'.history i →
      (w.dialogue sax).AnsweredAt w.history i) :
    PlaceOk sax maxDeliveryAttempts w' := by
  unfold PlaceOk Unanswered at h ⊢
  rw [dialogue_kept hkept, hplace]
  split at h
  next => trivial
  next => trivial
  next => trivial
  next snapshot _ => exact fun hthere => (h (hpresent hthere)).kept hkept
  next snapshot _ =>
    intro hthere
    obtain ⟨hcurrent, hroom, hunanswered⟩ := h (hpresent hthere)
    exact ⟨hcurrent.kept hkept, hroom, fun i hi => hunanswered i (hanswered i hi)⟩
  next snapshot _ _ =>
    obtain ⟨hprompt, hattempted, hunanswered⟩ := h
    exact ⟨hprompt.kept hkept, by rw [hkept.state.history]; exact hattempted,
      fun i hi => hunanswered i (hanswered i hi)⟩
  next =>
    obtain ⟨n, hn, hlast, honly⟩ := h
    obtain ⟨more, hmore⟩ := hgrow
    exact ⟨n, hmore ▸ hn.append more, fun i hi => hlast i (hasked i hi),
      fun i hi => honly i (hanswered i hi)⟩

end

section

variable {sax : SaxParser} {maxDeliveryAttempts : Nat} {w : World} {snapshot : SubagentJob}
  (h : Inv sax maxDeliveryAttempts w)

include h

/-- Every message of the delivery closes the ones before it. -/
theorem Inv.closes :
    ∀ entry ∈ w.history, (w.dialogue sax).asks entry → (w.dialogue sax).closes entry := by
  rintro entry hmem ⟨provenance, hparse, hid⟩
  exact (h.posted entry hmem provenance hparse hid).1

/-- The fingerprint the search asks for is the one the messages carry. -/
theorem Inv.lastFingerprint
    (hattempted : w.job.state.deliveryAttemptHistory ≠ []) :
    Delivery.lastFingerprint w.job = fingerprint w.job := by
  unfold Delivery.lastFingerprint
  rw [List.getLast?_eq_some_getLast hattempted]
  exact (h.attempted _ (List.getLast_mem hattempted)).2

/-- The worker moves. -/
theorem Inv.goto {place : Place} (hplace : PlaceOk sax maxDeliveryAttempts (w.goto place)) :
    Inv sax maxDeliveryAttempts (w.goto place) :=
  { h with place := hplace }

/-- **WHERE THE SEARCH FINDS NOTHING, NOTHING IS ANSWERED.** -/
theorem Inv.unanswered (hcurrent : Current w snapshot)
    (hnone : committedDeliveryTurn sax snapshot.state.deliveryId (Delivery.lastFingerprint snapshot)
      w.history = none) : Unanswered sax w := by
  intro i hanswered
  obtain ⟨message, hat, provenance, hparse, hid⟩ := hanswered.asked
  have hattempted := (h.posted message (List.mem_of_getElem? hat) provenance hparse hid).2.2
  -- The snapshot's last attempt is the job's, so the search asks for the job's fingerprint.
  have hlast : Delivery.lastFingerprint snapshot = fingerprint w.job := by
    rw [← h.lastFingerprint hattempted]
    unfold Delivery.lastFingerprint
    rw [hcurrent.history]
  have hfound : (committedDeliveryTurn sax w.job.state.deliveryId (fingerprint w.job)
      w.history).isSome = true := by
    refine committedDeliveryTurn_isSome (fun entry hmem p hp hpid => ?_) hanswered
    exact (h.posted entry hmem p hp hpid).2.1
  rw [hcurrent.deliveryId, hlast] at hnone
  rw [hnone] at hfound
  cases hfound

/-! ## §4. Each step keeps it. -/

theorem Inv.kept (hkept : w.job.Kept j) :
    Inv sax maxDeliveryAttempts { w with job := j } where
  sound := hkept.sound h.sound
  counted := by
    show j.state.deliveryAttempts = j.state.deliveryAttemptHistory.length
    rw [hkept.state.attempts, hkept.state.history]
    exact h.counted
  bounded := by
    show j.state.deliveryAttempts ≤ maxDeliveryAttempts
    rw [hkept.state.attempts]
    exact h.bounded
  attempted := by
    intro attempt hmem
    change attempt ∈ j.state.deliveryAttemptHistory at hmem
    rw [hkept.state.history] at hmem
    obtain ⟨hterminal, hprint⟩ := h.attempted attempt hmem
    refine ⟨?_, hprint.trans (fingerprint_kept hkept hterminal).symm⟩
    show j.state.execution.terminal = true
    rw [hkept.state.execution hterminal]
    exact hterminal
  posted := by
    intro entry hmem provenance hparse hid
    change provenance.deliveryId = j.state.deliveryId at hid
    rw [hkept.state.deliveryId] at hid
    obtain ⟨hprompt, hprint, hattempted⟩ := h.posted entry hmem provenance hparse hid
    -- Something was posted, so an attempt was recorded, so the job is terminal.
    have hterminal := (h.attempted _ (List.getLast_mem hattempted)).1
    refine ⟨hprompt, hprint.trans (fingerprint_kept hkept hterminal).symm, ?_⟩
    show j.state.deliveryAttemptHistory ≠ []
    rw [hkept.state.history]
    exact hattempted
  once := by
    rw [dialogue_kept hkept]
    exact h.once
  place := h.place.kept hkept rfl id (List.prefix_refl _) (fun _ => id) fun _ => id

theorem Inv.call {queued : SubagentJob}
    (hqueued : Queued w queued) :
    Inv sax maxDeliveryAttempts (w.goto (w.called queued)) := by
  apply h.goto
  unfold World.called
  dsimp only
  split
  next current hfound =>
    obtain ⟨-, rfl⟩ := World.findOwned_eq_ok hfound
    split
    next hpending =>
      exact fun _ => ⟨⟨terminal_of_isPending h.sound hpending, rfl, rfl⟩, rfl, rfl⟩
    next => trivial
  next e hmissing =>
    -- A published job is only missing because it was pruned.
    have habsent : w.present ≠ true := by
      intro hpresent
      unfold World.findOwned at hmissing
      rw [if_pos ⟨hpresent, hqueued.published, hqueued.jobId, hqueued.parentSessionId⟩] at hmissing
      cases hmissing
    split
    next => exact fun hpresent => absurd hpresent habsent
    next => trivial

theorem Inv.load (hplace : w.place = .loading snapshot) :
    Inv sax maxDeliveryAttempts (w.goto (decided sax maxDeliveryAttempts w.history snapshot)) := by
  have hcurrent : w.present = true → Current w snapshot := by
    have hp := h.place
    unfold PlaceOk at hp
    rw [hplace] at hp
    exact hp
  apply h.goto
  unfold decided
  split
  next => trivial
  next => trivial
  next hnone =>
    by_cases hfull : maxDeliveryAttempts ≤ snapshot.state.deliveryAttempts
    · rw [if_pos hfull]
      split
      next => trivial
      next => trivial
    · rw [if_neg hfull]
      intro hpresent
      have hc := hcurrent hpresent
      exact ⟨hc.kept (SubagentJob.kept_refl w.job), Nat.lt_of_not_le hfull, h.unanswered hc hnone⟩

/-- What recording an attempt leaves: the attempt is the last one, with the job's fingerprint,
    and there is still nothing answered. -/
theorem Inv.record (hplace : w.place = .preparing snapshot)
    (hok : w.recordDeliveryAttempt parentSessionId jobId
      { attemptId, promptFingerprint := fingerprint snapshot } = .ok w') :
    Inv sax maxDeliveryAttempts (w'.goto (.recorded snapshot attemptId)) := by
  obtain ⟨hpresent, state, hstate, rfl⟩ := World.recordDeliveryAttempt_eq_ok hok
  obtain ⟨hcurrent, hroom, hunanswered⟩ :
      Current w snapshot ∧ snapshot.state.deliveryAttempts < maxDeliveryAttempts ∧
        Unanswered sax w := by
    have hp := h.place
    unfold PlaceOk at hp
    rw [hplace] at hp
    exact hp hpresent
  have hsound : state.Sound := (JobState.Section.record _ hstate).sound h.sound
  have hattempted := attempted_of_recorded hstate
  obtain rfl | ⟨-, -, -, -, -, rfl⟩ := JobState.recordDeliveryAttempt_cases hstate
  · exact { h with place := ⟨{ hcurrent with }, hattempted, hunanswered⟩ }
  · refine ⟨hsound, ?_, ?_, ?_, ?_, h.once,
      ⟨{ hcurrent with }, hattempted, hunanswered⟩⟩
    · show w.job.state.deliveryAttempts + 1 = (w.job.state.deliveryAttemptHistory ++ [_]).length
      rw [List.length_append, List.length_singleton, h.counted]
    · show w.job.state.deliveryAttempts + 1 ≤ maxDeliveryAttempts
      rw [hcurrent.attempts] at hroom
      omega
    · intro attempt hmem
      rcases List.mem_append.mp hmem with hold | hnew
      · exact h.attempted attempt hold
      · rw [List.mem_singleton] at hnew
        subst hnew
        exact ⟨hcurrent.terminal, hcurrent.fingerprint⟩
    · intro entry hmem provenance hparse hid
      obtain ⟨hprompt, hprint, -⟩ := h.posted entry hmem provenance hparse hid
      exact ⟨hprompt, hprint, hattempted⟩

/-- One more entry: what is left to show of the invariant. -/
theorem Inv.append {place : Place}
    (hentry : ∀ provenance, parseSyntheticDeliveryProvenance sax entry = .ok (some provenance) →
      provenance.deliveryId = w.job.state.deliveryId →
      isPrompt entry = true ∧ provenance.promptFingerprint = fingerprint w.job ∧
        w.job.state.deliveryAttemptHistory ≠ [])
    (honce : (w.dialogue sax).AtMostOneAnswered (w.history ++ [entry]))
    (hplace : PlaceOk sax maxDeliveryAttempts ((w.append entry).goto place)) :
    Inv sax maxDeliveryAttempts ((w.append entry).goto place) := by
  refine { h with posted := ?_, once := honce, place := hplace }
  intro e hmem provenance hparse hid
  rcases List.mem_append.mp hmem with hold | hnew
  · exact h.posted e hold provenance hparse hid
  · rw [List.mem_singleton] at hnew
    subst hnew
    exact hentry provenance hparse hid

/-- **THE NEW MESSAGE IS THE ONLY ONE THAT MAY BE ANSWERED.** -/
theorem Inv.post
    (hplace : w.place = .recorded snapshot attemptId)
    (hprovenance : parseSyntheticDeliveryProvenance sax entry = .ok (some
      { deliveryId := snapshot.state.deliveryId, promptFingerprint := fingerprint snapshot }))
    (hprompt : isPrompt entry = true) :
    Inv sax maxDeliveryAttempts ((w.append entry).goto (.running snapshot attemptId)) := by
  obtain ⟨hsame, hattempted, hunanswered⟩ :
      SamePrompt w snapshot ∧ w.job.state.deliveryAttemptHistory ≠ [] ∧ Unanswered sax w := by
    have hp := h.place
    unfold PlaceOk at hp
    rw [hplace] at hp
    exact hp
  -- A user message commits nothing, so nothing is answered yet.
  have hnone : ∀ i, ¬ (w.dialogue sax).AnsweredAt (w.history ++ [entry]) i := by
    intro i hanswered
    refine hunanswered i (hanswered.of_concat_silent ?_)
    rintro j since - ⟨htype, -⟩
    exact absurd ((type_of_provenance hprovenance).symm.trans htype) (by decide)
  have hasks : (w.dialogue sax).asks entry := ⟨_, hprovenance, hsame.deliveryId⟩
  apply h.append
  · intro provenance hparse hid
    obtain rfl := Option.some.inj (Except.ok.inj (hprovenance.symm.trans hparse))
    exact ⟨hprompt, hsame.fingerprint, hattempted⟩
  · intro i j hi
    exact absurd hi (hnone i)
  · refine ⟨w.history.length, Dialogue.askedAt_concat_iff.mpr (.inr ⟨rfl, hasks⟩), ?_,
      fun i hi => absurd hi (hnone i)⟩
    intro i hi
    obtain ⟨q, hq, -⟩ := hi
    have hlt : i < (w.history ++ [entry]).length := (List.getElem?_eq_some_iff.mp hq).1
    rw [List.length_append, List.length_singleton] at hlt
    omega

/-- Inside a run, only the run's own message is open. -/
theorem Inv.write
    (hplace : w.place = .running snapshot attemptId) (hplain : ¬ (w.dialogue sax).asks entry) :
    Inv sax maxDeliveryAttempts (w.append entry) := by
  obtain ⟨n, hasked, hlast, honly⟩ : ∃ n, (w.dialogue sax).AskedAt w.history n ∧
      (∀ i, (w.dialogue sax).AskedAt w.history i → i ≤ n) ∧
      ∀ i, (w.dialogue sax).AnsweredAt w.history i → i = n := by
    have hp := h.place
    unfold PlaceOk at hp
    rw [hplace] at hp
    exact hp
  have honly' : ∀ i, (w.dialogue sax).AnsweredAt (w.history ++ [entry]) i → i = n := by
    intro i hanswered
    obtain hbefore | ⟨since, hopen, -⟩ := hanswered.of_concat
    · exact honly i hbefore
    · have hle : i ≤ n := hlast i hopen.asked
      have hge : n ≤ i := Dialogue.OpenAt.le_of_asked h.closes ⟨since, hopen⟩ hasked
      omega
  have hrun : PlaceOk sax maxDeliveryAttempts ((w.append entry).goto w.place) := by
    rw [hplace]
    refine ⟨n, hasked.append _, ?_, honly'⟩
    intro i hi
    obtain hi | ⟨-, hasks⟩ := Dialogue.askedAt_concat_iff.mp hi
    · exact hlast i hi
    · exact absurd hasks hplain
  refine h.append (fun provenance hparse hid => absurd ⟨provenance, hparse, hid⟩ hplain) ?_ hrun
  intro i j hi hj
  rw [honly' i hi, honly' j hj]

/-- What others write answers no message of the delivery. -/
theorem Inv.other (hforeign : ¬ (w.dialogue sax).asks entry)
    (hcommit : entry.type = .assistantTurnCommit → ∀ i, ¬ (w.dialogue sax).OpenAt w.history i) :
    Inv sax maxDeliveryAttempts (w.append entry) := by
  have hsame : ∀ i, (w.dialogue sax).AnsweredAt (w.history ++ [entry]) i →
      (w.dialogue sax).AnsweredAt w.history i := by
    intro i hanswered
    apply hanswered.of_concat_silent
    intro j since hopen hanswers
    exact hcommit hanswers.1 j ⟨since, hopen⟩
  have hplace : PlaceOk sax maxDeliveryAttempts ((w.append entry).goto w.place) := by
    refine h.place.kept (SubagentJob.kept_refl w.job) rfl id (List.prefix_append _ _) ?_ hsame
    intro i hi
    obtain hi | ⟨-, hasks⟩ := Dialogue.askedAt_concat_iff.mp hi
    · exact hi
    · exact absurd hasks hforeign
  refine h.append (fun provenance hparse hid => absurd ⟨provenance, hparse, hid⟩ hforeign) ?_ hplace
  intro i j hi hj
  exact h.once i j (hsame i hi) (hsame j hj)

/-- A pruned job is looked up in vain, and a run that was admitted goes on. -/
theorem Inv.prune :
    Inv sax maxDeliveryAttempts { w with present := false } := by
  refine { h with place := ?_ }
  exact h.place.kept (SubagentJob.kept_refl w.job) rfl Bool.noConfusion (List.prefix_refl _) (fun _ => id) fun _ => id

/-- **EVERY STEP KEEPS THE INVARIANT.** -/
theorem Inv.step (hstep : Step sax maxDeliveryAttempts w w') :
    Inv sax maxDeliveryAttempts w' := by
  cases hstep with
  | call queued hplace hqueued => exact h.call hqueued
  | load snapshot hplace => exact h.load hplace
  | acknowledge w' snapshot attemptId committedTurnId hplace hok =>
    obtain ⟨j, hkept, rfl⟩ := World.acknowledgeDelivery_eq_ok hok
    exact (h.kept hkept).goto trivial
  | exhaust w' snapshot attemptId hplace hok =>
    obtain ⟨j, hkept, rfl⟩ := World.exhaustDelivery_eq_ok hok
    exact (h.kept hkept).goto trivial
  | record w' snapshot attemptId hplace hok => exact h.record hplace hok
  | post snapshot attemptId entry hplace hprovenance hprompt =>
    exact h.post hplace hprovenance hprompt
  | write snapshot attemptId entry hplace hturn hplain => exact h.write hplace hplain
  | finish snapshot attemptId committedTurnId hplace | leave => exact h.goto trivial
  | job j hsection => exact h.kept hsection.kept
  | prune => exact h.prune
  | other entry hforeign hcommit => exact h.other hforeign hcommit

omit h in
theorem Init.inv (h : Init sax w) : Inv sax maxDeliveryAttempts w := by
  refine ⟨h.sound, ?_, ?_, ?_, ?_, ?_, ?_⟩
  · rw [h.attempts, h.history]
    rfl
  · rw [h.attempts]
    exact Nat.zero_le _
  · rw [h.history]
    exact List.forall_mem_nil _
  · intro entry hmem provenance hparse hid
    exact absurd ⟨provenance, hparse, hid⟩ (h.unheard entry hmem)
  · intro i j hi
    obtain ⟨q, hq, hasks⟩ := hi.asked
    exact absurd hasks (h.unheard q (List.mem_of_getElem? hq))
  · unfold PlaceOk
    rw [h.idle]
    trivial

end

/-! ## §5. At most one integration. -/

/-- **A RESULT IS INTEGRATED AT MOST ONCE**, and the attempts stay within their limit. -/
theorem result_integrated_at_most_once (sax : SaxParser) (maxDeliveryAttempts : Nat) {w : World}
    (h : Reach (Init sax) (Step sax maxDeliveryAttempts) w) :
    (integration sax w.job.state.deliveryId).AtMostOneAnswered w.history ∧
      w.job.state.deliveryAttemptHistory.length ≤ maxDeliveryAttempts ∧
      w.job.state.deliveryAttempts = w.job.state.deliveryAttemptHistory.length := by
  have hinv : Inv sax maxDeliveryAttempts w :=
    h.invariant (P := Inv sax maxDeliveryAttempts) (fun _ hinit => hinit.inv)
      (fun _ _ hkeep hstep => hkeep.step hstep)
  exact ⟨hinv.once, hinv.counted ▸ hinv.bounded, hinv.counted⟩

-- evaluating whole texts nests deep
set_option maxRecDepth 8192

/-- A finished job whose result waits for its delivery. -/
def finishedJob : SubagentJob :=
  { state :=
      { jobId := ascii "j", parentSessionId := ascii "p", deliveryId := ascii "d"
        mode := .background, execution := .completed, delivery := .pending, published := true
        terminalNotificationPending := true }
    report := { taskId := ascii "t", childSessionId := ascii "c", summary := some (ascii "done") } }

/-- The user message of its attempts. -/
def finishedMessage : SessionEntry :=
  { id := ascii "m", parentId := [], type := .userMessage, timestamp := []
    dataJson := ascii "\x7b\"text\":\"\",\"provenance\":\x7b\"source\":\"synthetic_subagent_delivery\",\"delivery_id\":\"d\",\"prompt_fingerprint\":\"" ++
      fingerprint finishedJob ++ ascii "\"\x7d\x7d" }

/-- A turn that ends the exchange. -/
def finishedTurn : SessionEntry :=
  { id := ascii "e", parentId := [], type := .assistantTurnCommit, timestamp := []
    dataJson := ascii "\x7b\"schema_version\":1,\"assistant_turn_id\":\"a\",\"item_count\":0,\"provider\":\"x\",\"model\":\"y\",\"finish_reason\":\"completed\"\x7d" }

/-- What the external parser reports on the message. -/
def finishedSax : SaxParser := fun value =>
  if value = finishedMessage.dataJson then
    { events := [.startObject, .key (ascii "text"), .other, .key (ascii "provenance"),
        .startObject, .key (ascii "source"), .other, .key (ascii "delivery_id"), .other,
        .key (ascii "prompt_fingerprint"), .other, .endObject, .endObject]
      ok := true }
  else { events := [], ok := false }

/-- The job with an attempt that came to nothing, and with a second one. -/
def finishedAttempts (attempts : List String) : SubagentJob :=
  { finishedJob with
    state := { finishedJob.state with
      delivery := .attempting, deliveryAttempts := attempts.length
      deliveryAttemptHistory := attempts.map fun a => ⟨ascii a, fingerprint finishedJob⟩ } }

theorem finishedMessage_provenance :
    parseSyntheticDeliveryProvenance finishedSax finishedMessage = .ok (some
      { deliveryId := ascii "d", promptFingerprint := fingerprint finishedJob }) := by
  decide


/-- The worlds of a delivery whose first attempt is cut off behind its message. -/
def deliveryWorld (attempts : List String) (history : List SessionEntry) (place : Place) : World :=
  { job := if attempts = [] then finishedJob else finishedAttempts attempts
    present := true, history, place }

/-- A step of that delivery, by the world it leads to. -/
theorem delivery_step (w' : World) {v : World}
    (h : Reach (Init finishedSax) (Step finishedSax 2) w) (hstep : Step finishedSax 2 w v)
    (hv : v = w') :
    Reach (Init finishedSax) (Step finishedSax 2) w' :=
  hv ▸ h.step hstep

theorem result_integrated_at_most_once_retried :
    ∃ w, Reach (Init finishedSax) (Step finishedSax 2) w ∧
      (integration finishedSax (ascii "d")).AnsweredAt w.history 1 ∧
      (integration finishedSax w.job.state.deliveryId).AtMostOneAnswered w.history ∧
      w.job.state.deliveryAttemptHistory.length = 2 := by
  have h0 : Reach (Init finishedSax) (Step finishedSax 2) (deliveryWorld [] [] .idle) := by
    refine .start ⟨⟨?_, ?_, ?_⟩, rfl, rfl, List.forall_mem_nil _, rfl⟩
    · intro hopen
      cases hopen
    · exact fun _ _ => .inl rfl
    · intro hacknowledged
      cases hacknowledged
  have h1 := delivery_step (deliveryWorld [] [] (.loading finishedJob)) h0
    (.call _ finishedJob rfl ⟨rfl, rfl, rfl⟩) (by decide)
  have h2 := delivery_step (deliveryWorld [] [] (.preparing finishedJob)) h1
    (.load _ finishedJob rfl) (by decide)
  have h3 := delivery_step (deliveryWorld ["1"] [] (.recorded finishedJob (ascii "1"))) h2
    (.record _ (deliveryWorld ["1"] [] (.preparing finishedJob)) finishedJob (ascii "1") rfl
      (by decide)) rfl
  have h4 := delivery_step
    (deliveryWorld ["1"] [finishedMessage] (.running finishedJob (ascii "1"))) h3
    (.post _ finishedJob (ascii "1") finishedMessage rfl finishedMessage_provenance
      (by decide)) rfl
  -- The run fails right after its message; the job is delivered again.
  have h5 := delivery_step (deliveryWorld ["1"] [finishedMessage] .idle) h4 (.leave _) rfl
  have h6 := delivery_step
    (deliveryWorld ["1"] [finishedMessage] (.loading (finishedAttempts ["1"]))) h5
    (.call _ finishedJob rfl ⟨rfl, rfl, rfl⟩) (by decide)
  have h7 := delivery_step
    (deliveryWorld ["1"] [finishedMessage] (.preparing (finishedAttempts ["1"]))) h6
    (.load _ (finishedAttempts ["1"]) rfl) (by decide)
  have h8 := delivery_step
    (deliveryWorld ["1", "2"] [finishedMessage]
      (.recorded (finishedAttempts ["1"]) (ascii "2"))) h7
    (.record _ (deliveryWorld ["1", "2"] [finishedMessage] (.preparing (finishedAttempts ["1"])))
      (finishedAttempts ["1"]) (ascii "2") rfl (by decide)) rfl
  have h9 := delivery_step
    (deliveryWorld ["1", "2"] [finishedMessage, finishedMessage]
      (.running (finishedAttempts ["1"]) (ascii "2"))) h8
    (.post _ (finishedAttempts ["1"]) (ascii "2") finishedMessage rfl finishedMessage_provenance
      (by decide)) rfl
  have h10 := delivery_step
    (deliveryWorld ["1", "2"] [finishedMessage, finishedMessage, finishedTurn]
      (.running (finishedAttempts ["1"]) (ascii "2"))) h9
    (.write _ (finishedAttempts ["1"]) (ascii "2") finishedTurn rfl (by decide)
      (fun ⟨_, hparse, _⟩ => EntryType.noConfusion (type_of_provenance hparse))) rfl
  refine ⟨_, h10, ⟨[finishedMessage, finishedMessage], [], finishedTurn, [], rfl,
    ⟨[finishedMessage], finishedMessage, rfl, rfl, ⟨_, finishedMessage_provenance, rfl⟩,
      List.forall_mem_nil _⟩, rfl,
    { assistantTurnId := ascii "a", itemCount := 0, provider := ascii "x", model := ascii "y"
      apiFamily := none, reasoningFormat := none, finishReason := ascii "completed"
      usageJson := none }, by decide, by decide,
    List.forall_mem_nil _⟩,
    (result_integrated_at_most_once finishedSax 2 h10).1, rfl⟩

end Ava.App.Delivery
