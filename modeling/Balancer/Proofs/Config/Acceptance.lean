import Mathlib
import Balancer.Config
import Balancer.Proofs.Config.Checks
import Balancer.Proofs.Containers

/-!
# Which settings are accepted

Each reader of a setting is settled by its own checks, and loading the configuration by all of them
in their order. So the settings are accepted exactly if they pass all checks, a configuration agrees
with the settings, and the error of settings that are refused is that of the first violated check.
What belongs to the settings of a kind of pool that was not chosen is not looked at.
-/

namespace Balancer

namespace Config

variable {lookup : Lookup} {var : Variable}

section Numbers

variable {default value value' : Nat}

/-- A number that is not given is the default. -/
theorem holdsNumber_of_not_set (hset : lookup var.name = none) :
    HoldsNumber lookup var default value ↔ value = default := by
  simp [HoldsNumber, hset, not_given hset]

/-- A number that is given is what the numeral stands for. -/
theorem holdsNumber_of_set {raw : String} (hset : lookup var.name = some raw) :
    HoldsNumber lookup var default value ↔ Text.IsNumeral word64Count (Text.trim raw) value := by
  simp [HoldsNumber, hset, given_iff hset]

/-- A variable stands for one number only. -/
theorem HoldsNumber.unique (h : HoldsNumber lookup var default value)
    (h' : HoldsNumber lookup var default value') : value = value' := by
  cases hset : lookup var.name with
  | none =>
    rw [holdsNumber_of_not_set hset] at h h'
    rw [h, h']
  | some raw =>
    rw [holdsNumber_of_set hset] at h h'
    exact h.unique h'

/-- Reading a variable that holds a number. -/
theorem settled_readNumber (lookup : Lookup) (var : Variable) :
    Settled lookup [.numeral var]
      (fun number => ∀ default, HoldsNumber lookup var default (number.getD default))
      (readNumber lookup var) := by
  unfold readNumber
  split
  · next hset =>
    apply Settled.of_met
    · simp [Check.Met, not_given hset]
    · simp [holdsNumber_of_not_set hset]
  · next raw hset =>
    split
    · next value hread =>
      have hnumeral := (Text.readNumeral_eq_ok_iff (by decide)).mp hread
      apply Settled.of_met
      · simpa [Check.Met, given_iff hset] using ⟨value, hnumeral⟩
      · simpa [holdsNumber_of_set hset] using hnumeral
    · next cause hread =>
      have hgiven := (given_iff hset).mpr rfl
      refine Settled.of_violated (fun hmet => ?_)
        (.numeral hgiven ((Text.readNumeral_eq_error_iff (by decide)).mp hread))
      obtain ⟨value, hnumeral⟩ := hmet _ hgiven
      rw [← Text.readNumeral_eq_ok_iff (by decide), hread] at hnumeral
      cases hnumeral

/-- A number whose default is not zero is not zero exactly if it is not given as zero. -/
theorem met_positive_iff (hdefault : default ≠ 0) (h : HoldsNumber lookup var default value) :
    Check.Met lookup (.positive var) ↔ value ≠ 0 := by
  cases hset : lookup var.name with
  | none =>
    rw [holdsNumber_of_not_set hset] at h
    subst h
    exact iff_of_true (by simp [Check.Met, not_given hset]) hdefault
  | some raw =>
    rw [holdsNumber_of_set hset] at h
    simp only [Check.Met, given_iff hset, forall_eq]
    refine not_congr ⟨fun hzero => h.unique hzero, ?_⟩
    rintro rfl
    exact h

/-- The delays are in order exactly if the numbers that they are given as are. -/
theorem met_ordered_iff {millis seconds : Nat}
    (hmillis : HoldsNumber lookup .requeueBase 5 millis)
    (hseconds : HoldsNumber lookup .requeueMax 1000 seconds) :
    Check.Met lookup .ordered ↔ millis ≤ seconds * 1000 := by
  constructor
  · intro hmet
    exact hmet millis seconds hmillis hseconds
  · intro hle millis' seconds' hmillis' hseconds'
    rwa [hmillis'.unique hmillis, hseconds'.unique hseconds]

end Numbers

/-- Reading the seconds between cleanups. -/
theorem settled_readInterval (lookup : Lookup) :
    Settled lookup [.numeral .cleanupInterval, .positive .cleanupInterval]
      (HoldsNumber lookup .cleanupInterval 907) (readInterval lookup) := by
  refine (settled_readNumber lookup .cleanupInterval).bind fun number hnumber => ?_
  exact .condition (met_positive_iff (by decide) (hnumber 907)) .interval
    fun _ => .of_fits (hnumber 907)

/-- The delays agree with the settings: the base is given in milliseconds, and the maximum in
seconds. -/
def PolicyFits (lookup : Lookup) (policy : Backoff) : Prop :=
  ∃ millis seconds, HoldsNumber lookup .requeueBase 5 millis ∧
    HoldsNumber lookup .requeueMax 1000 seconds ∧
    policy = { base := millis * nanosPerMilli, max := seconds * nanosPerSecond }

/-- Reading the delays of requeued jobs. Both numbers are read before either is checked. -/
theorem settled_readBackoff (lookup : Lookup) :
    Settled lookup
      [.numeral .requeueBase, .numeral .requeueMax, .positive .requeueBase, .ordered]
      (PolicyFits lookup) (readBackoff lookup) := by
  refine (settled_readNumber lookup .requeueBase).bind fun millis hmillis => ?_
  refine (settled_readNumber lookup .requeueMax).bind fun seconds hseconds => ?_
  specialize hmillis 5
  specialize hseconds 1000
  have hbase : (millis.map (· * nanosPerMilli)).getD Backoff.standard.base =
      millis.getD 5 * nanosPerMilli := Option.getD_map ..
  have hmax : (seconds.map (· * nanosPerSecond)).getD Backoff.standard.max =
      seconds.getD 1000 * nanosPerSecond := Option.getD_map ..
  dsimp only
  rw [hbase, hmax]
  refine .condition ?_ .base fun _ => .condition ?_ .ordered fun _ => .of_fits ?_
  · rw [met_positive_iff (by decide) hmillis]
    simp
  · rw [met_ordered_iff hmillis hseconds, not_lt]
    simp only [nanosPerMilli, nanosPerSecond]
    omega
  · exact ⟨_, _, hmillis, hseconds, rfl⟩

/-- Reading the jitter factor. -/
theorem settled_readJitter (lookup : Lookup) :
    Settled lookup [.real, .finite] (HoldsJitter lookup) (readJitter lookup) := by
  unfold readJitter
  split
  · next hset =>
    apply Settled.ok
    · simp [Check.Met, not_given hset]
    · exact .inl ⟨hset, rfl⟩
  · next raw hset =>
    have hgiven := (given_iff hset).mpr rfl
    split
    · next cause hread =>
      have hfault := Text.readReal_eq_error_iff.mp hread
      refine Settled.of_violated (fun hmet => ?_) (.real hgiven hfault)
      obtain ⟨jitter, hjitter⟩ := hmet _ hgiven
      rw [← Text.readReal_eq_ok_iff, hread] at hjitter
      cases hjitter
    · next jitter hread =>
      have hjitter := Text.readReal_eq_ok_iff.mp hread
      have hreal : ∀ check ∈ [Check.real], check.Met lookup := by
        simpa [Check.Met, given_iff hset] using ⟨jitter, hjitter⟩
      refine Settled.behind hreal ?_
      split
      · next hfinite =>
        apply Settled.of_met
        · simpa [Check.Met, given_iff hset, ← Text.readReal_eq_ok_iff, hread] using hfinite
        · exact .inr ⟨_, hgiven, hjitter⟩
      · next hinfinite =>
        exact .of_violated (fun hmet => hinfinite (hmet _ hgiven jitter hjitter)) .finite

section Pools

/-- Addresses that are read are written like the items of the list, in the same order. -/
theorem map_text_of_readAddresses {texts : List String} {addresses : List Ipv4}
    (h : readAddresses texts = .ok addresses) : addresses.map Ipv4.text = texts := by
  induction texts generalizing addresses with
  | nil =>
    cases h
    rfl
  | cons text rest ih =>
    unfold readAddresses at h
    split at h
    · cases h
    · next address hread =>
      obtain ⟨others, hothers, rfl⟩ := map_eq_ok h
      rw [List.map_cons, Ipv4.text_of_ofText? hread, ih hothers]

/-- The error of a list names the first item that is no address. -/
theorem firstWithout_of_readAddresses {texts : List String} {error : ConfigError}
    (h : readAddresses texts = .error error) :
    ∃ text, FirstWithout IsAddress texts text ∧ error = .badAddress text := by
  induction texts with
  | nil => cases h
  | cons text rest ih =>
    unfold readAddresses at h
    split at h
    · next hread =>
      cases h
      refine ⟨text, ⟨[], rest, rfl, List.forall_mem_nil _, ?_⟩, rfl⟩
      rintro ⟨address, rfl⟩
      rw [Ipv4.ofText?_text] at hread
      cases hread
    · next address hread =>
      cases hrest : readAddresses rest with
      | ok others =>
        rw [hrest] at h
        cases h
      | error cause =>
        rw [hrest] at h
        cases h
        obtain ⟨bad, ⟨before, after, rfl, hbefore, hbad⟩, herror⟩ := ih hrest
        refine ⟨bad, ⟨text :: before, after, rfl, ?_, hbad⟩, herror⟩
        exact List.forall_mem_cons.mpr ⟨⟨address, Ipv4.text_of_ofText? hread⟩, hbefore⟩

/-- The pool agrees with the settings of the chosen kind: it has the listed addresses in their
order, or the blocks that are given. -/
def PoolFits (lookup : Lookup) : PoolChoice → Prop
  | .fixed addresses => chosenPool lookup = "static" ∧
    HoldsList lookup .staticAddresses (addresses.map Ipv4.text)
  | .dynamic external internal => chosenPool lookup = "memory" ∧
    HoldsBlock lookup .externalBlock "198.18.0.0/24" external ∧
    HoldsBlock lookup .internalBlock "198.19.0.0/24" internal

/-- Reading the listed addresses. -/
theorem settled_readAddresses (hkind : chosenPool lookup = "static") {items : List String}
    (hitems : HoldsList lookup .staticAddresses items) :
    Settled lookup [.addresses]
      (fun addresses => HoldsList lookup .staticAddresses (addresses.map Ipv4.text))
      (readAddresses items) := by
  cases hread : readAddresses items with
  | ok addresses =>
    obtain rfl := map_text_of_readAddresses hread
    refine Settled.of_met (fun _ items' hitems' => ?_) hitems
    rw [hitems'.unique hitems, List.forall_mem_map]
    exact fun address _ => ⟨address, rfl⟩
  | error error =>
    obtain ⟨item, hfirst, rfl⟩ := firstWithout_of_readAddresses hread
    exact Settled.of_violated (fun hmet => hfirst.not_forall (hmet hkind items hitems))
      (.addresses hitems hfirst)

/-- Reading the settings of a fixed pool. -/
theorem settled_readFixed (hkind : chosenPool lookup = "static") :
    Settled lookup [.addresses, .someAddress] (PoolFits lookup) (readFixed lookup) := by
  simp only [readFixed]
  refine (settled_readAddresses hkind (holdsList_iff.mpr rfl)).bind fun addresses htexts => ?_
  refine .condition ?_ .someAddress fun _ => .of_fits ⟨hkind, htexts⟩
  rw [← List.map_eq_nil_iff]
  constructor
  · rintro hmet hnil
    exact hmet hkind (hnil ▸ htexts)
  · exact fun hne _ hempty => hne (htexts.unique hempty)

/-- Reading a block, where the default is the written form of a block. -/
theorem settled_readBlock (hkind : chosenPool lookup = "memory") {default : String}
    (hdefault : (Block.ofText (Text.trim default)).map Block.text = .ok default) :
    Settled lookup [.block var] (HoldsBlock lookup var default) (readBlock lookup var default) := by
  unfold readBlock
  cases hset : lookup var.name with
  | none =>
    obtain ⟨block, hread, htext⟩ := map_eq_ok hdefault
    rw [Option.getD_none, hread]
    apply Settled.of_met
    · simp [Check.Met, not_given hset]
    · exact .inl ⟨hset, htext⟩
  | some raw =>
    rw [Option.getD_some]
    have hgiven := (given_iff hset).mpr rfl
    split
    · next block hread =>
      have hdescribes := Block.ofText_eq_ok_iff.mp hread
      apply Settled.of_met
      · simpa [Check.Met, given_iff hset] using fun _ => ⟨block, hdescribes⟩
      · exact .inr ⟨_, hgiven, hdescribes⟩
    · next cause hread =>
      refine Settled.of_violated (fun hmet => ?_)
        (.block hgiven (Block.ofText_eq_error_iff.mp hread))
      obtain ⟨block, hdescribes⟩ := hmet hkind _ hgiven
      rw [← Block.ofText_eq_ok_iff, hread] at hdescribes
      cases hdescribes

/-- Reading the settings of a dynamic pool. -/
theorem settled_readDynamic (hkind : chosenPool lookup = "memory") :
    Settled lookup [.block .externalBlock, .block .internalBlock] (PoolFits lookup)
      (readDynamic lookup) := by
  refine (settled_readBlock hkind (by decide)).bind fun external hexternal => ?_
  refine (settled_readBlock hkind (by decide)).bind fun internal hinternal => ?_
  exact .of_fits ⟨hkind, hexternal, hinternal⟩

/-- Reading the kind of pool with its settings. The checks of the other kind are met. -/
theorem settled_readPool (lookup : Lookup) :
    Settled lookup
      [.kind, .addresses, .someAddress, .block .externalBlock, .block .internalBlock]
      (PoolFits lookup) (readPool lookup) := by
  change Settled lookup _ _ (if chosenPool lookup = "static" then readFixed lookup
    else if chosenPool lookup = "memory" then readDynamic lookup
    else .error (.unknownPool (chosenPool lookup)))
  split
  · next hkind =>
    have hmet : ∀ check ∈ [Check.kind], check.Met lookup := by simp [Check.Met, hkind]
    refine Settled.behind hmet ((settled_readFixed hkind).ahead ?_)
    simp [Check.Met, hkind]
  · next hfixed =>
    split
    · next hkind =>
      have hmet : ∀ check ∈ [Check.kind, .addresses, .someAddress], check.Met lookup := by
        simp [Check.Met, hkind]
      exact Settled.behind hmet (settled_readDynamic hkind)
    · next hdynamic => exact .of_violated (not_or.mpr ⟨hfixed, hdynamic⟩) .kind

end Pools

/-- Exactly the texts that start like web addresses are taken for addresses of agents. -/
theorem isAgentUrl_eq_true_iff {url : String} : isAgentUrl url = true ↔ IsWebAddress url := by
  simp [isAgentUrl, IsWebAddress]

/-- Reading the agents. -/
theorem settled_readAgents (lookup : Lookup) :
    Settled lookup [.urls] (fun agents => HoldsList lookup .agentUrls agents.bases)
      (readAgents lookup) := by
  unfold readAgents
  have hitems : HoldsList lookup .agentUrls
      (Text.listItems ((lookup (Variable.name .agentUrls)).getD "")) := holdsList_iff.mpr rfl
  dsimp only
  generalize Text.listItems ((lookup (Variable.name .agentUrls)).getD "") = items at hitems ⊢
  split
  · next url hfind =>
    obtain ⟨hurl, before, after, heq, hbefore⟩ := List.find?_eq_some_iff_append.mp hfind
    simp only [Bool.not_eq_true', Bool.not_not, ← Bool.not_eq_true, isAgentUrl_eq_true_iff]
      at hurl hbefore
    have hfirst : FirstWithout IsWebAddress items url := ⟨before, after, heq, hbefore, hurl⟩
    exact Settled.of_violated (fun hmet => hfirst.not_forall (hmet items hitems))
      (.urls hitems hfirst)
  · next hfind =>
    refine Settled.of_met (fun items' hitems' url hurl => ?_) hitems
    rw [hitems'.unique hitems] at hurl
    have hfound := List.find?_eq_none.mp hfind url hurl
    rw [← isAgentUrl_eq_true_iff]
    simpa using hfound

/-- A configuration agrees with the settings. The jitter factor is brought into the interval from
zero to one. -/
structure Reflects (lookup : Lookup) (config : Config) : Prop where
  interval : HoldsNumber lookup .cleanupInterval 907 config.cleanupSeconds
  policy : PolicyFits lookup config.backoff.policy
  jitter : ∃ jitter, HoldsJitter lookup jitter ∧
    config.backoff.jitter = if jitter < 0.0 then 0.0 else if jitter > 1.0 then 1.0 else jitter
  pool : PoolFits lookup config.pool
  agents : HoldsList lookup .agentUrls config.agents.bases
  timeout : HoldsNumber lookup .agentTimeout 5000 config.agentTimeoutMillis

/-- Loading the configuration. -/
theorem settled_load (lookup : Lookup) :
    Settled lookup Check.order (Reflects lookup) (load lookup) := by
  refine (settled_readInterval lookup).bind fun cleanupSeconds hinterval => ?_
  refine (settled_readBackoff lookup).bind fun policy hpolicy => ?_
  refine (settled_readJitter lookup).bind fun jitter hjitter => ?_
  refine (settled_readPool lookup).bind fun pool hpool => ?_
  refine (settled_readAgents lookup).bind fun agents hagents => ?_
  refine (settled_readNumber lookup .agentTimeout).bind fun timeout htimeout => ?_
  refine Settled.of_fits ?_
  exact
    { interval := hinterval, policy := hpolicy, jitter := ⟨jitter, hjitter, rfl⟩, pool := hpool,
      agents := hagents, timeout := htimeout 5000 }

/-- A variable is looked at unless it belongs to the settings of a kind of pool that is not the
given one. -/
def IsLookedAt (kind : String) : Variable → Prop
  | .staticAddresses => kind = "static"
  | .externalBlock | .internalBlock => kind = "memory"
  | _ => True

/-- Only the variables that are looked at make a difference. -/
theorem load_congr {other : Lookup}
    (h : ∀ var, IsLookedAt (chosenPool lookup) var → other var.name = lookup var.name) :
    load other = load lookup := by
  have hnumber : ∀ var, other var.name = lookup var.name →
      readNumber other var = readNumber lookup var := fun var hvar => by
    simp only [readNumber, hvar]
  have hblock : ∀ var default, other var.name = lookup var.name →
      readBlock other var default = readBlock lookup var default := fun var default hvar => by
    simp only [readBlock, hvar]
  have hpool : readPool other = readPool lookup := by
    simp only [readPool, h .portManager trivial]
    split
    · next hkind => simp only [readFixed, h .staticAddresses hkind]
    · split
      · next hkind =>
        simp only [readDynamic, hblock _ _ (h .externalBlock hkind),
          hblock _ _ (h .internalBlock hkind)]
      · rfl
  simp only [load, readInterval, readBackoff, readJitter, readAgents, hpool,
    hnumber _ (h .cleanupInterval trivial), hnumber _ (h .requeueBase trivial),
    hnumber _ (h .requeueMax trivial), hnumber _ (h .agentTimeout trivial),
    h .requeueJitter trivial, h .agentUrls trivial]

/-- The settings are accepted exactly if they pass all checks, and the configuration agrees with
them. Settings that are refused have the error of the first violated check. Settings that differ in
variables of another kind of pool only are loaded alike. -/
theorem load_exact (lookup : Lookup) :
    ((∃ config, load lookup = .ok config) ↔ ∀ check ∈ Check.order, check.Met lookup) ∧
    (∀ config, load lookup = .ok config → Reflects lookup config) ∧
    (∀ error, load lookup = .error error ↔ FirstViolated lookup Check.order error) ∧
    ∀ other : Lookup,
      (∀ var, IsLookedAt (chosenPool lookup) var → other var.name = lookup var.name) →
        load other = load lookup := by
  have hload := settled_load lookup
  refine ⟨hload.exists_ok_iff, fun config hconfig => ?_, fun error => hload.eq_error_iff, ?_⟩
  · rw [hconfig] at hload
    exact hload.fits
  · exact fun other => load_congr

/-- The given variables are set, and no others. -/
def settings (given : List (Variable × String)) : Lookup := fun name =>
  (given.find? fun entry => entry.1.name = name).map Prod.snd

/-- Two addresses and a jitter factor are accepted, the addresses in their order, with or without a
block that is not looked at. Of two items that are no addresses the error names the first. A jitter
factor that is no real number is refused, and so is an infinite one. -/
theorem load_exact_listed :
    (∃ config,
      load (settings [(.staticAddresses, " 192.0.2.7,, 192.0.2.1"), (.requeueJitter, "2.5e-1 ")]) =
        .ok config ∧
      Reflects
        (settings [(.staticAddresses, " 192.0.2.7,, 192.0.2.1"), (.requeueJitter, "2.5e-1 ")])
        config ∧
      config.pool = .fixed [Ipv4.ofOctets 192 0 2 7, Ipv4.ofOctets 192 0 2 1] ∧
      config.backoff.jitter = 0.25) ∧
    load (settings [(.staticAddresses, "192.0.2.7"), (.externalBlock, "nowhere")]) =
      load (settings [(.staticAddresses, "192.0.2.7")]) ∧
    FirstViolated (settings [(.staticAddresses, "192.0.2.7, nowhere, elsewhere")]) Check.order
      (.badAddress "nowhere") ∧
    FirstViolated (settings [(.requeueJitter, "banana"), (.staticAddresses, "nowhere")]) Check.order
      (.badReal .requeueJitter .malformed) ∧
    FirstViolated (settings [(.requeueJitter, "-Infinity")]) Check.order .infiniteJitter := by
  refine ⟨⟨_, rfl, (load_exact _).2.1 _ rfl, by decide, rfl⟩, ?_, ?_, ?_, ?_⟩
  · refine (load_exact _).2.2.2 _ fun var hvar => ?_
    cases var with
    | externalBlock => exact absurd (show "static" = "memory" from hvar) (by decide)
    | _ => rfl
  · exact ((load_exact _).2.2.1 _).mp rfl
  · exact ((load_exact _).2.2.1 _).mp rfl
  · exact ((load_exact _).2.2.1 _).mp rfl

end Config

end Balancer
