import Flyover.Proofs.Endings.Errors
import Flyover.Proofs.HeldLocks

/-! Each error that a use case returns names it once. -/

namespace Flyover

open Run Trace

lemma Trace.Inquires.replies {σ : Surroundings} {p : Call → Prop} {t t' : Trace} (h : t.Inquires p t') :
    ∃ l, t'.replies σ = t.replies σ ++ l ∧ ∀ r ∈ l, p (.question r.question) := by
  obtain ⟨cs, rfl, hcs⟩ := h
  refine ⟨Flyover.replies σ.peers t.calls cs, ?_, fun r hr => hcs _ (question_mem_of_mem_replies _ _ _ hr)⟩
  rw [Trace.replies, calls_notingAll, replies_append]
  rfl

namespace Acceptance

def Weighing (hash : String) (provider : Address) (t : Trace) : Prop :=
  .question (.balance provider) ∈ t.calls ∧ .access (.insertSettlement hash) ∉ t.calls

def Requires (hash : String) (σ : Surroundings) (s : Store) (t : Trace) (required : Wei) : Prop :=
  ∃ quote gasPrice, s.quotes[hash]? = some quote ∧ Told (t.replies σ) .gasPrice gasPrice ∧
    quote.requiredLiquidity gasPrice = .ok required

def weighingArgs (hash : String) (required : Wei) : ErrorArgs :=
  (ErrorArgs.single "quoteHash" hash).insert "amount" required.text

def Preliminary : Call → Prop
  | .question (.balance _) | .access (.insertSettlement _) => False
  | _ => True

def Weighs : Call → Prop
  | .question .gasPrice | .access (.insertSettlement _) => False
  | _ => True

lemma consider_preliminary (hash : String) (signature : Option String) :
    (consider hash signature).Keeps (Trace.Inquires Preliminary) := by
  refine .bind (.look trivial) fun found => ?_
  refine .bind (.require _ _) fun quote => ?_
  refine .bind .now fun now => ?_
  refine .bind (.check _ _) fun _ => ?_
  refine .bind (.mapM_option _ fun signature => ?_) fun account => ?_
  · refine .bind (.lift _) fun address => ?_
    refine .bind (.look trivial) fun found => ?_
    refine .bind (.require _ _) fun account => ?_
    exact .bind (.check _ _) fun _ => .pure _
  · refine .bind (.acquire _) fun _ => ?_
    exact .bind (.look trivial) fun found => .pure _

lemma weigh_preliminary (quote : Quote) (account : Option TrustedAccount) :
    (weigh quote account).Keeps (Trace.Inquires Preliminary) := by
  cases account with
  | none => exact .pure ()
  | some account =>
    refine .bind (.look trivial) fun settlements => ?_
    refine .bind (.lift _) fun locked => ?_
    refine .bind (.lift _) fun withValue => ?_
    refine .bind (.lift _) fun requested => ?_
    exact .ite (.fail _) (.pure _)

lemma depositAddressOf_preliminary (hash : String) (quote : Quote) :
    (depositAddressOf hash quote).Keeps (Trace.Inquires Preliminary) := by
  refine .bind (.lift _) fun quoteHash => ?_
  refine .bind (.inquire trivial) fun userAddress => ?_
  refine .bind (.inquire trivial) fun providerAddress => ?_
  refine .bind (.inquire trivial) fun federation => ?_
  refine .bind (.contractAddress fun _ => inquires_noting trivial) fun bridgeContract => ?_
  exact .inquire trivial

lemma require_weighs {amount : Wei} {σ : Surroundings} {t t' : Trace} {r : Except Halt Unit}
    (h : (Liquidity.require amount).resume σ t = ⟨r, t'⟩) :
    (t.noting (.question (.balance σ.settings.provider))).Inquires Weighs t' := by
  have asked := congrArg Outcome.trace (resume_ask σ t (.balance σ.settings.provider))
  rw [Liquidity.require, Liquidity.available, Liquidity.availableAs, bind_assoc, resume_bind_of_ok (resume_settings σ t), bind_assoc] at h
  rcases ho : (ask (.balance σ.settings.provider)).resume σ t with ⟨halt | balance, t₁⟩ <;> rw [ho] at asked <;>
    subst asked
  · rw [resume_bind_of_error ho] at h
    cases h
    exact refl_of _ _
  · rw [resume_bind_of_ok ho] at h
    refine Keeps.of_resume (Keeps.bind (.bind (.inquire (q := .contractBalance _) trivial) fun other => ?_) fun free => ?_) h
    · refine .bind (.look trivial) fun settlements => ?_
      refine .bind (.lift _) fun locked => ?_
      exact .bind (.lift _) fun held => .pure _
    · exact .ite (.fail _) (.pure _)

lemma not_weighing {hash : String} {provider : Address} {s : Store} {t : Trace} (h : (start s).Inquires Preliminary t) :
    ¬ Weighing hash provider t :=
  fun weighing => h.calls.of_start _ weighing.1

section

variable {σ : Surroundings} {t t' : Trace} {hash : String} {price : Wei → Except Error Wei} {e : Error}

structure Declines (price : Wei → Except Error Wei) (σ : Surroundings) (t t' : Trace) (required : Wei) (source : Error) :
    Prop where
  bare : source.Bare
  priced : ∃ gasPrice l, price gasPrice = .ok required ∧ t'.replies σ = t.replies σ ++ l ∧ Told l .gasPrice gasPrice
  weighed : ∃ t₁, t.Inquires Preliminary t₁ ∧ (t₁.noting (.question (.balance σ.settings.provider))).Inquires Weighs t'

lemma prepare_fails (bare : σ.AnswersBare) (fair : ∀ gasPrice, Error.PlainIn (price gasPrice)) {quote : Quote}
    {owner : Option Address} (failed : (prepare price hash quote owner).resume σ t = ⟨.error (.failed e), t'⟩) :
    e.Bare ∧ t.Inquires Preliminary t' ∨ ∃ required source,
      Declines price σ t t' required source ∧ e = .inUseCase .acceptQuote (weighingArgs hash required) source := by
  rw [prepare] at failed
  rcases resume_bind_eq_error_iff.mp failed with failed | ⟨depositAddress, t₁, ha, failed⟩
  · exact .inl ⟨(depositAddressOf_raises hash quote).bare bare t e t' failed,
      (depositAddressOf_preliminary hash quote).of_resume failed⟩
  have derived := (depositAddressOf_preliminary hash quote).of_resume ha
  obtain ⟨quoteHash, _, _, _, _, decoded, -, told⟩ := resume_depositAddressOf_eq_ok ha
  rcases resume_bind_eq_error_iff.mp failed with failed | ⟨gasPrice, t₂, hg, failed⟩
  · exact .inl ⟨FailsWith.ask bare _ t₁ e t' failed,
      trans_of _ derived ((Keeps.inquire (p := Preliminary) (q := .gasPrice) trivial).of_resume failed)⟩
  have asked := trans_of _ derived ((Keeps.inquire (p := Preliminary) (q := .gasPrice) trivial).of_resume hg)
  rcases resume_bind_eq_error_iff.mp failed with failed | ⟨required, t₃, hr, failed⟩
  · exact .inl ⟨(FailsWith.compute (fair gasPrice)).bare bare t₂ e t' failed,
      trans_of _ asked ((Keeps.lift (R := Trace.Inquires Preliminary) _).of_resume failed)⟩
  obtain ⟨priced, rfl⟩ := resume_lift_eq_ok_iff.mp hr
  rcases resume_bind_eq_error_iff.mp failed with failed | ⟨_, t₄, hl, failed⟩
  · obtain ⟨halt, declined, mapped⟩ := resume_mapError_eq_error_iff.mp failed
    cases halt with
    | waiting l => cases mapped
    | failed source =>
      cases mapped
      have weighed := require_weighs declined
      obtain ⟨l, replies, others⟩ := weighed.replies (σ := σ)
      rw [replies_noting_question, replies_of_resume_ask hg, told] at replies
      simp only [List.append_assoc] at replies
      refine .inr ⟨required, source, ⟨?_, ⟨gasPrice, _, priced, replies, ?_⟩, t₂, asked, weighed⟩, rfl⟩
      · exact (Liquidity.require_raises required).bare bare t₂ source t' declined
      · have silent : l.filter (fun r => r.question = .gasPrice) = [] := by
          rw [List.filter_eq_nil_iff]
          intro r hr same
          have weighs := others r hr
          rw [of_decide_eq_true same] at weighs
          exact weighs
        simp [Told, silent]
  · -- nothing fails once there is enough liquidity: the hash has been decoded before
    rw [resume_bind_of_ok (resume_settings σ t₄), signQuoteHash_eq _ decoded, liftM_ok, pure_bind] at failed
    cases failed

lemma quoteHash_of_resume_prepare_eq_ok {quote : Quote} {owner : Option Address} {settlement : Settlement}
    (h : (prepare price hash quote owner).resume σ t = ⟨.ok settlement, t'⟩) : settlement.quoteHash = hash := by
  simp only [prepare, resume_bind_eq_ok_iff, resume_pure_eq_ok_iff] at h
  obtain ⟨_, _, -, _, _, -, _, _, -, _, _, -, _, _, -, _, _, -, rfl, -⟩ := h
  rfl

inductive Failure (hash : String) (σ : Surroundings) (s : Store) (t : Trace) : Error → Prop
  | other {e : Error} (bare : e.Bare) (unweighed : ¬ Weighing hash σ.settings.provider t) : Failure hash σ s t e
  | liquidity {source : Error} {required : Wei} (bare : source.Bare) (weighing : Weighing hash σ.settings.provider t)
      (requires : Requires hash σ s t required) :
      Failure hash σ s t (.inUseCase .acceptQuote (weighingArgs hash required) source)

lemma Declines.weighing (hash : String) {required : Wei} {source : Error} {s : Store}
    (h : Declines price σ t t' required source) (inquired : (start s).Inquires Preliminary t) :
    Weighing hash σ.settings.provider t' := by
  obtain ⟨t₁, prepared, cs, rfl, weighs⟩ := h.weighed
  have before := (trans_of _ inquired prepared).calls.of_start
  constructor
  · simp
  · simp only [calls_notingAll, calls_noting, List.mem_append, List.mem_singleton, reduceCtorEq, or_false, not_or]
    exact ⟨fun stored => before _ stored, fun stored => weighs _ stored⟩

lemma Declines.requires {required : Wei} {source : Error} {s : Store} {quote : Quote}
    (h : Declines quote.requiredLiquidity σ t t' required source) (quoted : s.quotes[hash]? = some quote)
    (looked : t.replies σ = []) : Requires hash σ s t' required := by
  obtain ⟨gasPrice, l, priced, replies, told⟩ := h.priced
  rw [looked, List.nil_append] at replies
  exact ⟨quote, gasPrice, quoted, replies ▸ told, priced⟩

lemma commit_fails (bare : σ.AnswersBare) {quote : Quote} {account : Option TrustedAccount} {s : Store}
    (inquired : (start s).Inquires Preliminary t) (looked : (start s).Looks t) (quoted : s.quotes[hash]? = some quote)
    (failed : (commit hash quote account).resume σ t = ⟨.error (.failed e), t'⟩) : Failure hash σ s t' e := by
  have fair := quote.requiredLiquidity_plainIn
  rw [commit_eq] at failed
  generalize hprice : quote.requiredLiquidity = price at failed fair
  rcases resume_bind_eq_error_iff.mp failed with failed | ⟨_, t₁, hw, failed⟩
  · exact .other ((weigh_raises quote account).bare bare t e t' failed)
      (not_weighing (trans_of _ inquired ((weigh_preliminary quote account).of_resume failed)))
  have inquired := trans_of _ inquired ((weigh_preliminary quote account).of_resume hw)
  have looked := trans_of _ looked ((weigh_looks quote account).of_resume hw)
  rcases resume_bind_eq_error_iff.mp failed with failed | ⟨settlement, t₂, hp, failed⟩
  · rcases prepare_fails bare fair failed with ⟨plain, prepared⟩ | ⟨required, source, declines, rfl⟩
    · exact .other plain (not_weighing (trans_of _ inquired prepared))
    · have weighing := declines.weighing hash inquired
      subst hprice
      exact .liquidity declines.bare weighing (declines.requires quoted (replies_of_looks looked))
  · have drafted := quoteHash_of_resume_prepare_eq_ok hp
    rcases resume_enter_cases quote settlement σ t₂ with ⟨h, resumed⟩ | resumed
    · refine .other ((enter_raises quote settlement).bare bare _ e t' failed) fun weighing => weighing.2 ?_
      rw [resumed] at failed
      cases failed
      simp [drafted]
    · rw [resumed] at failed
      cases failed

lemma accept_fails (bare : σ.AnswersBare) {signature : Option String} {s : Store}
    (failed : (accept hash signature).resume σ (.start s) = ⟨.error (.failed e), t⟩) : Failure hash σ s t e := by
  rw [accept_eq] at failed
  rcases resume_bind_eq_error_iff.mp failed with failed | ⟨⟨⟨quote, account⟩, found⟩, t₁, hc, failed⟩
  · exact .other ((consider_raises hash signature).bare bare _ e t failed)
      (not_weighing ((consider_preliminary hash signature).of_resume failed))
  obtain ⟨considered, -⟩ := considered_of_resume_consider_eq_ok hc
  cases found with
  | some s => cases failed
  | none =>
    exact commit_fails bare ((consider_preliminary hash signature).of_resume hc)
      ((consider_looks hash signature).of_resume hc) considered.quoted failed

end

end Acceptance

namespace Collateral

lemma withdrawalError_bare {e : Error} (h : e.Bare) : (withdrawalError e).Bare := by
  cases e with
  | contractReverted reason receipt =>
    rw [withdrawalError]
    split
    · exact Error.bare_of_isLeaf rfl
    · exact h
  | _ => exact h

end Collateral

inductive Service
  | getQuote (request : QuoteRequest)
  | acceptQuote (hash : String) (signature : Option String)
  | callForUser (given : Settlement)
  | registerPegin (given : Settlement)
  | recommendValue (budget : Wei) (destination : String) (data : CallData)
  | addCollateral (amount : Wei)
  | getCollateral
  | withdrawCollateral
  | expireQuote (given : Settlement)
  | sweepExpired
  | quoteStatus (hash : String)
  | peginReport (start stop : Instant)

namespace Service

abbrev Result : Service → Type
  | getQuote _ => PricedQuote
  | acceptQuote .. => Acceptance
  | callForUser _ | registerPegin _ | expireQuote _ => Settlement
  | recommendValue .. => Recommendation
  | addCollateral _ | getCollateral => Wei
  | withdrawCollateral => Unit
  | sweepExpired => List String
  | quoteStatus _ => QuoteStatus
  | peginReport .. => Report

def run : (x : Service) → Run x.Result
  | getQuote request => Flyover.getQuote request
  | acceptQuote hash signature => Flyover.acceptQuote hash signature
  | callForUser given => Flyover.callForUser given
  | registerPegin given => Flyover.registerPegin given
  | recommendValue budget destination data => Flyover.recommendValue budget destination data
  | addCollateral amount => Flyover.addCollateral amount
  | getCollateral => Flyover.getCollateral
  | withdrawCollateral => Flyover.withdrawCollateral
  | expireQuote given => Flyover.expireQuote given
  | sweepExpired => Flyover.sweepExpired
  | quoteStatus hash => Flyover.quoteStatus hash
  | peginReport start stop => Flyover.peginReport start stop

def useCase : Service → UseCase
  | getQuote _ => .getQuote
  | acceptQuote .. => .acceptQuote
  | callForUser _ => .callForUser
  | registerPegin _ => .registerPegin
  | recommendValue .. => .recommend
  | addCollateral _ => .addCollateral
  | getCollateral => .getCollateral
  | withdrawCollateral => .withdrawCollateral
  | expireQuote _ => .expireQuote
  | sweepExpired => .expireQuote
  | quoteStatus _ => .quoteStatus
  | peginReport .. => .report

def hash? : Service → Option String
  | acceptQuote hash _ | quoteStatus hash => some hash
  | callForUser given | registerPegin given | expireQuote given => some given.quoteHash
  | _ => none

structure Explains (x : Service) (σ : Surroundings) (s : Store) (t : Trace) (args : ErrorArgs) : Prop where
  hash (hash : String) (about : x.hash? = some hash) : args["quoteHash"]? = some hash
  amount (hash : String) (signature : Option String) (accepts : x = acceptQuote hash signature)
    (weighing : Acceptance.Weighing hash σ.settings.provider t) :
    ∃ required, Acceptance.Requires hash σ s t required ∧ args["amount"]? = some required.text
  noAmount (hash : String) (signature : Option String) (accepts : x = acceptQuote hash signature)
    (unweighed : ¬ Acceptance.Weighing hash σ.settings.provider t) : args["amount"]? = none

lemma Explains.of_hash {x : Service} {σ : Surroundings} {s : Store} {t : Trace} {args : ErrorArgs}
    (hash : ∀ hash, x.hash? = some hash → args["quoteHash"]? = some hash) (other : x.useCase ≠ .acceptQuote) :
    x.Explains σ s t args :=
  ⟨hash, by rintro _ _ rfl; exact absurd rfl other, by rintro _ _ rfl; exact absurd rfl other⟩

end Service

lemma ErrorArgs.lookup_single (name value : String) : (single name value)[name]? = some value := by
  simp [single]

lemma ErrorArgs.lookup_insert_single {name other : String} (value text : String) (h : other ≠ name) :
    ((single name value).insert other text)[name]? = some value := by
  rw [Std.ExtTreeMap.getElem?_insert, if_neg (by simpa using h), lookup_single]

lemma Registration.lookup_arguments (given : Settlement) : (arguments given)["quoteHash"]? = some given.quoteHash := by
  rw [arguments]
  cases given.deposit with
  | none => exact ErrorArgs.lookup_single _ _
  | some txid => exact ErrorArgs.lookup_insert_single _ _ (by decide)

section

variable {σ : Surroundings} {s : Store} {t : Trace} {e : Error}

lemma Acceptance.Failure.taggedOnce {hash : String} (signature : Option String) (h : Failure hash σ s t e) :
    (e.orWithin .acceptQuote (.single "quoteHash" hash)).TaggedOnce .acceptQuote
      ((Service.acceptQuote hash signature).Explains σ s t) := by
  cases h with
  | other bare unweighed =>
    rw [bare.orWithin]
    refine bare.taggedOnce ⟨?_, ?_, ?_⟩
    · rintro _ ⟨⟩
      exact ErrorArgs.lookup_single _ _
    · rintro _ _ ⟨⟩ weighing
      exact absurd weighing unweighed
    · rintro _ _ ⟨⟩ -
      simp [ErrorArgs.single]
  | @liquidity source required bare weighing requires =>
    refine bare.taggedOnce ⟨?_, ?_, ?_⟩
    · rintro _ ⟨⟩
      exact ErrorArgs.lookup_insert_single _ _ (by decide)
    · rintro _ _ ⟨⟩ -
      exact ⟨required, requires, by simp [weighingArgs]⟩
    · rintro _ _ ⟨⟩ unweighed
      exact absurd weighing unweighed

lemma Expiry.sweep_failsWith (bare : σ.AnswersBare) {R : ErrorArgs → Prop} (hR : R ∅) :
    FailsWith σ (Error.TaggedOnce .expireQuote R) sweepExpired := by
  refine sweep_raises.mono fun e raised => ?_
  obtain ⟨source, rfl, arises⟩ := raised
  exact (arises.bare bare).taggedOnce hR

lemma acceptQuote_fails {hash : String} {signature : Option String} {u : UseCase} {args : ErrorArgs} {source : Error}
    (failed : (Acceptance.accept hash signature).exec σ s = ⟨.error (.failed (.inUseCase u args source)), t⟩) :
    (acceptQuote hash signature).exec σ s = ⟨.error (.failed (.inUseCase u args source)), t⟩ :=
  resume_mapError_of_failed failed

end

/-- An error that a service returns names its use case, at the root and nowhere else, as long as the peers name none. Where
the service is about a quote, the error tells its hash. -/
theorem errors_tagged_once (x : Service) (σ : Surroundings) (s : Store) (bare : σ.AnswersBare) (e : Error) (t : Trace)
    (failed : x.run.exec σ s = ⟨.error (.failed e), t⟩) : e.TaggedOnce x.useCase (x.Explains σ s t) := by
  cases x with
  | getQuote request =>
    obtain ⟨e, halted, rfl⟩ := resume_mapError_eq_failed_iff.mp failed
    have explains (args : ErrorArgs) : (Service.getQuote request).Explains σ s t args := .of_hash nofun nofun
    rcases Quoting.price_failsWith bare request _ e t halted with plain | tagged
    · exact plain.orWithin .getQuote ∅ ▸ plain.taggedOnce (explains _)
    · obtain ⟨args, source, rfl, -, plain⟩ := tagged
      exact plain.taggedOnce (explains args)
  | acceptQuote hash signature =>
    obtain ⟨e, halted, rfl⟩ := resume_mapError_eq_failed_iff.mp failed
    exact (Acceptance.accept_fails bare halted).taggedOnce signature
  | callForUser given =>
    refine (Payout.pay_failsWith bare given).orWithin .callForUser (.of_hash ?_ nofun) _ e t failed
    rintro _ ⟨⟩
    exact ErrorArgs.lookup_single _ _
  | registerPegin given =>
    refine (Registration.register_failsWith bare given).orWithin .registerPegin (.of_hash ?_ nofun) _ e t failed
    rintro _ ⟨⟩
    exact Registration.lookup_arguments given
  | recommendValue budget destination data =>
    have fails := Recommendation.compute_failsWith bare budget destination data
    exact fails.inUseCase .recommend (.of_hash nofun nofun) _ e t failed
  | addCollateral amount =>
    exact (Collateral.add_failsWith bare amount).inUseCase .addCollateral (.of_hash nofun nofun) _ e t failed
  | getCollateral =>
    have asked := FailsWith.bind .settings fun settings => FailsWith.ask bare (.collateral settings.provider)
    exact asked.inUseCase .getCollateral (.of_hash nofun nofun) _ e t failed
  | withdrawCollateral =>
    refine (FailsWith.ask bare .withdrawCollateral).mapError (fun e plain => ?_) _ e t failed
    exact (Collateral.withdrawalError_bare plain).taggedOnce (.of_hash nofun nofun)
  | expireQuote given =>
    refine (Expiry.close_failsWith bare given).orWithin .expireQuote (.of_hash ?_ nofun) _ e t failed
    rintro _ ⟨⟩
    exact ErrorArgs.lookup_single _ _
  | sweepExpired => exact Expiry.sweep_failsWith bare (.of_hash nofun nofun) _ e t failed
  | quoteStatus hash =>
    refine FailsWith.inUseCase ?_ .quoteStatus (.of_hash ?_ nofun) _ e t failed
    · refine .bind (.access bare _ _) fun quote => .bind (.require (Error.bare_of_isLeaf rfl) _) fun quote => ?_
      refine .bind (.access bare _ _) fun settlement => .bind (.require (Error.bare_of_isLeaf rfl) _) fun settlement => ?_
      exact .bind (.access bare _ _) fun pricing => .pure _
    · rintro _ ⟨⟩
      exact ErrorArgs.lookup_single _ _
  | peginReport start stop =>
    exact (Report.compute_failsWith bare start stop).inUseCase .report (.of_hash nofun nofun) _ e t failed

namespace Sample

def poorPeers : Peers := { peers with
  answer
    | .balance _ => .ok 0
    | q => peers.answer q }

def poorSurroundings : Surroundings := ⟨⟨fun _ => poorPeers, 0, 1⟩, settings, fun _ => false⟩

def declinedTrace : Trace := ((Acceptance.accept hash none).exec poorSurroundings quotedStore).trace

lemma poorSurroundings_answersBare : poorSurroundings.AnswersBare where
  answer _ q := by cases q <;> nofun
  outage _ _ := nofun

def failedIn? {α : Type} : Except Halt α → Option UseCase
  | .error (.failed e) => e.useCase?
  | _ => none

lemma accept_declined : ∃ u args source, (Acceptance.accept hash none).exec poorSurroundings quotedStore =
    ⟨.error (.failed (.inUseCase u args source)), declinedTrace⟩ := by
  have failed : failedIn? ((Acceptance.accept hash none).exec poorSurroundings quotedStore).result = some .acceptQuote := by
    decide +kernel
  rw [declinedTrace]
  generalize (Acceptance.accept hash none).exec poorSurroundings quotedStore = o at failed
  rcases o with ⟨(e | l) | a, t⟩
  · cases e <;> cases failed
    exact ⟨_, _, _, rfl⟩
  · cases failed
  · cases failed

end Sample

theorem sample_error_tagged : ∃ e,
    (acceptQuote Sample.hash none).exec Sample.poorSurroundings Sample.quotedStore =
        ⟨.error (.failed e), Sample.declinedTrace⟩ ∧
      e.TaggedOnce .acceptQuote ((Service.acceptQuote Sample.hash none).Explains Sample.poorSurroundings
        Sample.quotedStore Sample.declinedTrace) ∧
      Acceptance.Weighing Sample.hash Sample.poorSurroundings.settings.provider Sample.declinedTrace := by
  obtain ⟨u, args, source, declined⟩ := Sample.accept_declined
  have failed := acceptQuote_fails declined
  have bare := Sample.poorSurroundings_answersBare
  refine ⟨_, failed, errors_tagged_once (.acceptQuote Sample.hash none) _ _ bare _ _ failed, ?_⟩
  -- what is declined names the use case before the service does
  cases Acceptance.accept_fails bare declined with
  | other plain unweighed => cases plain _ (.root _)
  | liquidity plain weighing requires => exact weighing

end Flyover
