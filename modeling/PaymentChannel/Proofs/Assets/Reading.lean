import PaymentChannel.Proofs.Assets.Transcript

/-!
# Reading tokens

All that operations on assets ask for are readings of tokens: first the symbol, and if that can be
read, the decimals. What comes of it is remembered only if both can be.

* `Reading`: how the reading of a token can go;
* `Lookup`: how a token can be looked up, which takes a reading only if nothing is remembered of it
  that is still good;
* `Refresh`: how tokens can be read again.

What each command does is put in these terms (`AssetCommand.Does`).
-/

namespace PaymentChannel

/-- The symbol of a token is read. -/
def Exchange.symbol (token : Address) (answer : Except Error String) : Exchange :=
  ⟨.view (.symbol token), answer⟩

/-- The decimals of a token are read. -/
def Exchange.decimals (token : Address) (answer : Except Error UInt8) : Exchange :=
  ⟨.view (.decimals token), answer⟩

/-- A token whose symbol and decimals are both read, with what they are. -/
def Exchange.learning (learned : Address × Asset) : List Exchange :=
  [.symbol learned.1 (.ok learned.2.symbol), .decimals learned.1 (.ok learned.2.decimals)]

/-- How the reading of a token can go, with the exchanges and the result. -/
inductive Reading (token : Address) : List Exchange → Except Error Asset → Prop where
  /-- The symbol cannot be read, and the decimals are not asked for. -/
  | nameless (reason : Error) : Reading token [.symbol token (.error reason)]
      (.error (reason.asRead "symbol" s!"token={token}"))
  /-- The decimals cannot be read. -/
  | placeless (symbol : String) (reason : Error) :
      Reading token [.symbol token (.ok symbol), .decimals token (.error reason)]
        (.error (reason.asRead "decimals" s!"token={token}"))
  /-- Both are read. -/
  | complete (asset : Asset) : Reading token (Exchange.learning (token, asset)) (.ok asset)

/-- How a token can be looked up, with the exchanges, the result and the cache that is left. -/
inductive Lookup (cache : AssetCache) (token : Address) :
    List Exchange → Except Error Asset → AssetCache → Prop where
  /-- The native asset is known. -/
  | native (zero : token.isZero = true) : Lookup cache token [] (.ok cache.native) cache
  /-- The token is remembered, and what is remembered is good. -/
  | remembered (nonzero : token.isZero = false) (asset : Asset) {after : AssetCache}
      (found : cache.cached token = (some asset, after)) : Lookup cache token [] (.ok asset) after
  /-- The token is read, and from then on remembered. -/
  | learned (nonzero : token.isZero = false) {between : AssetCache}
      (missing : cache.cached token = (none, between))
      {es : List Exchange} {asset : Asset} (reading : Reading token es (.ok asset)) :
      Lookup cache token es (.ok asset) (between.insert token asset)
  /-- The token cannot be read, and the cache stays as it is. -/
  | failed (nonzero : token.isZero = false) {after : AssetCache}
      (missing : cache.cached token = (none, after))
      {es : List Exchange} {e : Error} (reading : Reading token es (.error e)) :
      Lookup cache token es (.error e) after

/-- With a lifetime, a token that is remembered is read again just if the lifetime has run out. -/
theorem Lookup.exchanges_eq_nil_iff {cache after : AssetCache} {token : Address}
    {es : List Exchange} {result : Except Error Asset} (h : Lookup cache token es result after)
    (nonzero : token.isZero = false) {lifetime : UInt64} (hl : cache.lifetime = some lifetime)
    {entry : AssetCache.Entry} (found : cache.entries.lookup token = some entry) :
    es = [] ↔ entry.isExpired lifetime (cache.clock 0) = false := by
  have good := AssetCache.cached_of_lifetime hl found
  have asked {result : Except Error Asset} (reading : Reading token es result) : es ≠ [] := by
    cases reading <;> exact List.cons_ne_nil _ _
  cases h with
  | native zero => exact absurd (zero.symm.trans nonzero) Bool.noConfusion
  | remembered nonzero asset cached =>
    rw [cached] at good
    cases expired : entry.isExpired lifetime (cache.clock 0) with
    | true =>
      rw [expired] at good
      cases good
    | false => exact iff_of_true rfl rfl
  | learned nonzero missing reading | failed nonzero missing reading =>
    rw [missing] at good
    cases expired : entry.isExpired lifetime (cache.clock 0) with
    | true => exact iff_of_false (asked reading) Bool.noConfusion
    | false =>
      rw [expired] at good
      cases good

namespace AssetCache

/-- Remembers tokens one after the other. -/
def insertAll (cache : AssetCache) (learned : List (Address × Asset)) : AssetCache :=
  learned.foldl (fun cache l => cache.insert l.1 l.2) cache

theorem insertAll_cons (cache : AssetCache) (first : Address × Asset)
    (learned : List (Address × Asset)) :
    cache.insertAll (first :: learned) = (cache.insert first.1 first.2).insertAll learned := rfl

/-- What was learned of a token last is remembered, and otherwise what was remembered before. -/
theorem find?_insertAll (cache : AssetCache) (learned : List (Address × Asset)) (token : Address) :
    (cache.insertAll learned).find? token =
      (learned.reverse.lookup token).or (cache.find? token) := by
  induction learned generalizing cache with
  | nil => rfl
  | cons first learned ih =>
    rw [insertAll_cons, ih, find?_insert, List.reverse_cons, List.lookup_append, Option.or_assoc,
      List.lookup_cons, List.lookup_nil]
    by_cases same : token = first.1
    · rw [if_pos same, beq_iff_eq.2 same]
      rfl
    · rw [if_neg same, beq_false_of_ne same]
      rfl

end AssetCache

/-- How tokens can be read again, with the exchanges, the result and the cache that is left. The
    native asset is left out. -/
inductive Refresh (cache : AssetCache) (tokens : List Address) :
    List Exchange → Except Error Unit → AssetCache → Prop where
  /-- All of them are read. -/
  | complete (learned : List (Address × Asset))
      (tokens_eq : tokens.filter (!·.isZero) = learned.map Prod.fst) :
      Refresh cache tokens (learned.flatMap Exchange.learning) (.ok ()) (cache.insertAll learned)
  /-- One cannot be read, and those that are left are not read either. -/
  | interrupted (learned : List (Address × Asset)) (failed : Address) (left : List Address)
      (tokens_eq : tokens.filter (!·.isZero) = learned.map Prod.fst ++ failed :: left)
      {es : List Exchange} {e : Error} (reading : Reading failed es (.error e)) :
      Refresh cache tokens (learned.flatMap Exchange.learning ++ es) (.error e)
        (cache.insertAll learned)

namespace AssetOperation

open Operation

variable {cache after : AssetCache} {token : Address} {es : List Exchange}

theorem transcript_read {v : View} {operation context : String} {result : Except Error v.Answer}
    (t : (lift ((view v).asRead operation context)).Transcript cache es result after) :
    after = cache ∧ ∃ answer : Except Error v.Answer, es = [⟨.view v, answer⟩] ∧
      result = answer.mapError (Error.asRead operation context) := by
  obtain ⟨read, after_eq⟩ := transcript_lift.1 t
  obtain ⟨answer, viewed, result_eq⟩ := transcript_adapt.1 read
  exact ⟨after_eq, answer, transcript_view.1 viewed, result_eq⟩

theorem reading_of_fetch {result : Except Error Asset}
    (t : (fetch token).Transcript cache es result after) :
    (∃ asset, result = .ok asset ∧ Reading token es (.ok asset) ∧
      after = cache.insert token asset) ∨
    ∃ e, result = .error e ∧ Reading token es (.error e) ∧ after = cache := by
  rcases transcript_bind.1 t with ⟨e, read, rfl⟩ | ⟨_, _, symbol, _, rfl, read, rest⟩
  · obtain ⟨rfl, reason | symbol, rfl, result_eq⟩ := transcript_read read
    · cases result_eq
      exact .inr ⟨_, rfl, .nameless reason, rfl⟩
    · exact nomatch result_eq
  obtain ⟨rfl, reason | symbol, rfl, symbol_eq⟩ := transcript_read read
  · exact nomatch symbol_eq
  cases symbol_eq
  rcases transcript_bind.1 rest with ⟨e, read', rfl⟩ | ⟨_, _, places, _, rfl, read', rest'⟩
  · obtain ⟨rfl, reason | places, rfl, result_eq⟩ := transcript_read read'
    · cases result_eq
      exact .inr ⟨_, rfl, .placeless symbol reason, rfl⟩
    · exact nomatch result_eq
  obtain ⟨rfl, reason | places, rfl, places_eq⟩ := transcript_read read'
  · exact nomatch places_eq
  cases places_eq
  -- With both at hand, the rest is to remember them.
  rcases transcript_bind.1 rest' with ⟨e, inserted, -⟩ | ⟨_, _, _, _, rfl, inserted, done⟩
  · exact nomatch (transcript_modify.1 inserted).2.1
  obtain ⟨rfl, -, rfl⟩ := transcript_modify.1 inserted
  obtain ⟨rfl, rfl, rfl⟩ := transcript_pure.1 done
  exact .inl ⟨⟨symbol, places⟩, rfl, .complete ⟨symbol, places⟩, rfl⟩

theorem lookup_of_asset {result : Except Error Asset}
    (t : (asset token).Transcript cache es result after) : Lookup cache token es result after := by
  rcases transcript_bind.1 t with ⟨e, got, -⟩ | ⟨_, _, current, _, rfl, got, rest⟩
  · exact nomatch (transcript_get.1 got).2.1
  obtain ⟨rfl, current_eq, rfl⟩ := transcript_get.1 got
  obtain rfl := Except.ok.inj current_eq
  by_cases zero : token.isZero = true
  · rw [if_pos zero] at rest
    obtain ⟨rfl, rfl, rfl⟩ := transcript_pure.1 rest
    exact .native zero
  · rw [if_neg zero] at rest
    have nonzero := eq_false_of_ne_true zero
    rcases transcript_bind.1 rest with ⟨e, looked, -⟩ | ⟨_, _, cached, _, rfl, looked, rest⟩
    · exact nomatch (transcript_modifyGet.1 looked).2.1
    obtain ⟨rfl, cached_eq, rfl⟩ := transcript_modifyGet.1 looked
    obtain rfl := Except.ok.inj cached_eq
    rcases found : current.cached token with ⟨_ | asset, between⟩
    · rw [found] at rest
      rcases reading_of_fetch rest with ⟨asset, rfl, reading, rfl⟩ | ⟨e, rfl, reading, rfl⟩
      · exact .learned nonzero found reading
      · exact .failed nonzero found reading
    · rw [found] at rest
      obtain ⟨rfl, rfl, rfl⟩ := transcript_pure.1 rest
      exact .remembered nonzero asset found

theorem lookup_of_decimals {result : Except Error UInt8}
    (t : (decimals token).Transcript cache es result after) :
    ∃ found, Lookup cache token es found after ∧ result = found.map Asset.decimals := by
  rcases transcript_bind.1 t with ⟨e, first, rfl⟩ | ⟨_, _, asset, _, rfl, first, rest⟩
  · exact ⟨.error e, lookup_of_asset first, rfl⟩
  · obtain ⟨rfl, rfl, rfl⟩ := transcript_pure.1 rest
    rw [List.append_nil]
    exact ⟨.ok asset, lookup_of_asset first, rfl⟩

/-- What goes on with the decimals of a token, without reading anything else, comes of looking the
    token up. -/
theorem lookup_of_bind {α : Type} {f : UInt8 → AssetOperation α} {g : UInt8 → Except Error α}
    (pure_eq : ∀ {places cache es result after}, (f places).Transcript cache es result after →
      es = [] ∧ result = g places ∧ after = cache)
    {result : Except Error α} (t : (decimals token >>= f).Transcript cache es result after) :
    ∃ found, Lookup cache token es found after ∧ result = found.bind fun asset => g asset.decimals
    := by
  rcases transcript_bind.1 t with ⟨e, first, rfl⟩ | ⟨_, _, places, _, rfl, first, rest⟩
  · obtain ⟨e' | asset, lookup, found_eq⟩ := lookup_of_decimals first
    · cases found_eq
      exact ⟨.error e, lookup, rfl⟩
    · exact nomatch found_eq
  · obtain ⟨rfl, rfl, rfl⟩ := pure_eq rest
    obtain ⟨e | asset, lookup, found_eq⟩ := lookup_of_decimals first
    · exact nomatch found_eq
    · cases found_eq
      rw [List.append_nil]
      exact ⟨.ok asset, lookup, rfl⟩

theorem refresh_of_transcript {tokens : List Address} {result : Except Error Unit}
    (t : (refresh tokens).Transcript cache es result after) :
    Refresh cache tokens es result after := by
  induction tokens generalizing cache es with
  | nil =>
    obtain ⟨rfl, rfl, rfl⟩ := transcript_pure.1 t
    exact .complete [] rfl
  | cons token tokens ih =>
    by_cases zero : token.isZero = true
    · have filter_eq : (token :: tokens).filter (!·.isZero) = tokens.filter (!·.isZero) :=
        List.filter_cons_of_neg (by rw [zero]; exact Bool.false_ne_true)
      rw [refresh, zero] at t
      cases ih t with
      | complete learned tokens_eq => exact .complete learned (filter_eq.trans tokens_eq)
      | interrupted learned failed left tokens_eq reading =>
        exact .interrupted learned failed left (filter_eq.trans tokens_eq) reading
    · have filter_eq : (token :: tokens).filter (!·.isZero) = token :: tokens.filter (!·.isZero) :=
        List.filter_cons_of_pos (by rw [eq_false_of_ne_true zero]; rfl)
      rw [refresh, eq_false_of_ne_true zero] at t
      rcases transcript_bind.1 t with ⟨e, fetched, rfl⟩ | ⟨_, _, asset, _, rfl, fetched, rest⟩
      · -- The first token cannot be read, and all others are left.
        rcases reading_of_fetch fetched with ⟨asset, result_eq, -⟩ | ⟨_, ⟨⟩, reading, rfl⟩
        · cases result_eq
        · exact .interrupted [] token _ filter_eq reading
      · -- The first token is read, and the others after it.
        rcases reading_of_fetch fetched with ⟨_, ⟨⟩, ⟨⟩, rfl⟩ | ⟨e, result_eq, -⟩
        · cases ih rest with
          | complete learned tokens_eq =>
            exact .complete ((token, asset) :: learned)
              (filter_eq.trans (congrArg (token :: ·) tokens_eq))
          | interrupted learned failed left tokens_eq reading =>
            exact .interrupted ((token, asset) :: learned) failed left
              (filter_eq.trans (congrArg (token :: ·) tokens_eq)) reading
        · cases result_eq

end AssetOperation

namespace AssetCommand

variable {cache after : AssetCache} {es : List Exchange}

/-- What a command does, with the exchanges, the result and the cache that is left. -/
def Does (cache : AssetCache) : (command : AssetCommand) → List Exchange →
    Except Error command.Result → AssetCache → Prop
  | .asset token, es, result, after => Lookup cache token es result after
  | .decimals token, es, result, after =>
    ∃ found, Lookup cache token es found after ∧ result = found.map Asset.decimals
  | .parseAmount token text, es, result, after => ∃ found, Lookup cache token es found after ∧
    result = found.bind fun asset => toBaseUnits text asset.decimals
  | .formatAmount token units, es, result, after => ∃ found, Lookup cache token es found after ∧
    result = found.bind fun asset => .ok (Amount.format units asset.decimals)
  | .refresh tokens, es, result, after => Refresh cache tokens es result after
  | .invalidateToken token, es, result, after =>
    es = [] ∧ result = .ok () ∧ after = cache.erase token
  | .invalidate, es, result, after => es = [] ∧ result = .ok () ∧ after = cache.clear

theorem does_of_transcript {command : AssetCommand} {result : Except Error command.Result}
    (t : command.perform.Transcript cache es result after) :
    command.Does cache es result after := by
  cases command with
  | asset token => exact AssetOperation.lookup_of_asset t
  | decimals token => exact AssetOperation.lookup_of_decimals t
  | refresh tokens => exact AssetOperation.refresh_of_transcript t
  | invalidateToken token => exact AssetOperation.transcript_modify.1 t
  | invalidate => exact AssetOperation.transcript_modify.1 t
  | parseAmount token text =>
    refine AssetOperation.lookup_of_bind (fun rest => ?_) t
    obtain ⟨parsed, rfl⟩ := AssetOperation.transcript_lift.1 rest
    obtain ⟨rfl, rfl⟩ := Operation.transcript_ofExcept.1 parsed
    exact ⟨rfl, rfl, rfl⟩
  | formatAmount token units =>
    exact AssetOperation.lookup_of_bind (fun rest => AssetOperation.transcript_pure.1 rest) t

end AssetCommand

end PaymentChannel
