import PaymentChannel.Proofs.Client.Sequencing

/-!
# When a call is sent

By the time that a call is sent, all calls have been prepared, and those before it have been
included: `Delivery.calls_eq_of_send` for a list of calls, `Client.Course.prepared_of_send` for a
write.
-/

namespace PaymentChannel

/-- A call is sent after all calls before it have been included. -/
theorem Delivery.calls_eq_of_send {calls : List Call} {es before after : List Exchange}
    {result : Except Error (List Hash)} (h : Delivery calls es result) {call : Call}
    {answer : Except Error Hash} (es_eq : es = before ++ ⟨.send call, answer⟩ :: after) :
    ∃ left, calls = included before ++ call :: left := by
  have of_inclusions {done : List (Call × Hash)} {after : List Exchange}
      (done_eq : done.map .inclusion = before ++ ⟨.send call, answer⟩ :: after) :
      ∃ left, done.map Prod.fst = included before ++ call :: left := by
    obtain ⟨first, rest, rfl, rfl, rest_eq⟩ := List.map_eq_append_iff.1 done_eq
    obtain ⟨⟨call', hash⟩, later, rfl, inclusion_eq, -⟩ := List.map_eq_cons_iff.1 rest_eq
    cases inclusion_eq
    exact ⟨later.map Prod.fst, by rw [included_map_inclusion, List.map_append]; rfl⟩
  cases h with
  | complete done calls_eq => exact calls_eq ▸ of_inclusions es_eq
  | interrupted done failed left reason e calls_eq =>
    -- The call is one that is included, or the one that fails.
    rcases List.append_eq_append_iff.1 es_eq with ⟨rest, rfl, last_eq⟩ | ⟨rest, done_eq, last_eq⟩
    · obtain ⟨rfl, failed_eq⟩ | ⟨_, rfl, absent⟩ := List.cons_eq_append_iff.1 last_eq
      · cases failed_eq
        exact ⟨left, by rw [calls_eq, List.append_nil, included_map_inclusion]⟩
      · simp at absent
    · cases rest with
      | nil =>
        cases last_eq
        exact ⟨left, by rw [calls_eq, ← List.append_nil before, ← done_eq, included_map_inclusion]⟩
      | cons x rest =>
        cases last_eq
        obtain ⟨others, done_eq⟩ := of_inclusions done_eq
        exact ⟨others ++ failed :: left, by rw [calls_eq, done_eq]; simp⟩

namespace Client

open Operation

/-- A list of calls is delivered if all calls are included, whatever they are called as steps. -/
theorem transcript_sendFrom_ok {total step : Nat} {calls : List Call} {es : List Exchange}
    {hashes : List Hash} :
    (sendFrom total step calls).Transcript es (.ok hashes) ↔ ∃ done : List (Call × Hash),
      calls = done.map Prod.fst ∧ es = done.map .inclusion ∧ hashes = done.map Prod.snd := by
  constructor
  · intro t
    generalize sent : Except.ok hashes = result at t
    cases delivery_sendFrom step t with
    | complete done calls_eq =>
      cases sent
      exact ⟨done, calls_eq, rfl, rfl⟩
    | interrupted => exact nomatch sent
  · rintro ⟨done, rfl, rfl, rfl⟩
    induction done generalizing step with
    | nil => exact transcript_pure.2 ⟨rfl, rfl⟩
    | cons first done ih =>
      have sent : (send first.1).Transcript [.inclusion first] (.ok first.2) :=
        transcript_send.2 rfl
      refine transcript_bind_ok.2 ⟨_, _, _, rfl, transcript_adapt_ok.2 sent, ?_⟩
      exact transcript_bind_pure_ok.2 ⟨_, ih, rfl⟩

theorem transcript_sendOne_ok {call : Call} {es : List Exchange} {hash : Hash} :
    (sendOne call).Transcript es (.ok hash) ↔ es = [.inclusion (call, hash)] :=
  transcript_adapt_ok.trans transcript_send

variable {c : Client} {w : Write} {es : List Exchange} {calls : List Call}
  {result : Except Error w.Result}

/-- In any course of a write, what is sent are deliveries of the calls that were prepared. -/
theorem Course.delivery (h : c.Course w es calls result) :
    (∀ x ∈ es, x.request.isSend = false) ∨ ∃ before sends extra all outcome,
      es = before ++ sends ∧ (∀ x ∈ before, x.request.isSend = false) ∧
      (c.preparation w).Transcript before (.ok (extra, all)) ∧ Delivery all sends outcome := by
  cases h with
  | unprepared es e prepared unsent => exact .inl unsent
  | complete before done extra r prepared unsent parts_eq =>
    exact .inr ⟨before, _, extra, _, _, rfl, unsent, prepared, .complete done rfl⟩
  | interrupted before done extra failed left reason e prepared unsent =>
    exact .inr ⟨before, _, extra, _, _, List.append_assoc _ _ _, unsent, prepared,
      .interrupted done failed left reason e rfl⟩

/-- When a call is sent, it has been prepared along with those before it, and these have been
    included. -/
theorem Course.prepared_of_send (h : c.Course w es calls result) {before after : List Exchange}
    {call : Call} {answer : Except Error Hash}
    (es_eq : es = before ++ ⟨.send call, answer⟩ :: after) :
    ∃ prepared extra left, prepared <+: before ∧
      (c.preparation w).Transcript prepared (.ok (extra, included before ++ call :: left)) := by
  rcases h.delivery with unsent |
    ⟨prepared, sends, extra, all, outcome, es_eq', unsent, t, delivery⟩
  · exact nomatch unsent ⟨.send call, answer⟩ (by simp [es_eq])
  · rcases List.append_eq_append_iff.1 (es_eq'.symm.trans es_eq) with
      ⟨rest, rfl, sends_eq⟩ | ⟨rest, rfl, sends_eq⟩
    · obtain ⟨left, rfl⟩ := delivery.calls_eq_of_send sends_eq
      refine ⟨prepared, extra, left, List.prefix_append _ _, ?_⟩
      rwa [included_append, included_of_unsent unsent, List.nil_append]
    · cases rest with
      | nil =>
        rw [List.append_nil] at unsent t
        have sends_eq : sends = [] ++ ⟨.send call, answer⟩ :: after := sends_eq.symm
        obtain ⟨left, rfl⟩ := delivery.calls_eq_of_send sends_eq
        refine ⟨before, extra, left, List.prefix_rfl, ?_⟩
        rwa [included_of_unsent unsent]
      | cons x rest =>
        cases sends_eq
        exact nomatch unsent ⟨.send call, answer⟩ (by simp)

end Client

end PaymentChannel
