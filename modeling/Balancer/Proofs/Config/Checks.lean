import Mathlib
import Balancer.Config
import Balancer.Proofs.Address.Notation
import Balancer.Proofs.Text.Numerals
import Balancer.Proofs.Text.Reals

/-!
# The checks of the settings

What the settings have to be is stated as a row of checks, each of them about what the variables are
set to: the numerals, real numbers, blocks and addresses that are written there between blanks. A
check that belongs to the settings of a kind of pool is met by those who chose another kind. The
error of a row of checks is the one that its first violated check is reported as, and there is no
other.

An answer is settled by a row of checks if it is a value that fits the settings where all of them
are met, and else the error of the row. Reading one setting after the other is settled by the checks
of the one followed by those of the other.
-/

namespace Balancer.Config

/-- A variable is set to a text, perhaps between blanks. -/
def Given (lookup : Lookup) (var : Variable) (text : String) : Prop :=
  ∃ raw, lookup var.name = some raw ∧ Text.Trims raw text

/-- The kind of pool that is chosen. -/
def chosenPool (lookup : Lookup) : String :=
  (lookup (Variable.name .portManager)).getD "static"

/-- A variable stands for a number: it is not set and the number is the default, or a numeral for
the number is given. -/
def HoldsNumber (lookup : Lookup) (var : Variable) (default value : Nat) : Prop :=
  lookup var.name = none ∧ value = default ∨
    ∃ text, Given lookup var text ∧ Text.IsNumeral word64Count text value

/-- A variable stands for a block: it is not set and the default is how the block is written, or a
description of the block is given. -/
def HoldsBlock (lookup : Lookup) (var : Variable) (default : String) (block : Block) : Prop :=
  lookup var.name = none ∧ block.text = default ∨
    ∃ text, Given lookup var text ∧ Block.Describes text block

/-- The jitter factor is given, or there is none. -/
def HoldsJitter (lookup : Lookup) (jitter : Float) : Prop :=
  lookup (Variable.name .requeueJitter) = none ∧ jitter = 0.0 ∨
    ∃ text, Given lookup .requeueJitter text ∧ Text.IsReal text jitter

/-- A variable stands for a list: it is not set and there are no items, or it is set to a list of
the items. -/
def HoldsList (lookup : Lookup) (var : Variable) (items : List String) : Prop :=
  lookup var.name = none ∧ items = [] ∨
    ∃ raw, lookup var.name = some raw ∧ Text.IsList raw items

/-- A text is an address in its written form. -/
def IsAddress (text : String) : Prop :=
  ∃ address : Ipv4, address.text = text

/-- A text starts as the address of a web service does. -/
def IsWebAddress (text : String) : Prop :=
  "http://".toList <+: text.toList ∨ "https://".toList <+: text.toList

/-- A check of the settings. -/
inductive Check where
  | numeral (var : Variable)
  | positive (var : Variable)
  | ordered
  | real
  | finite
  | kind
  | addresses
  | someAddress
  | block (var : Variable)
  | urls

namespace Check

/-- What a check asks of the settings. A variable that is not set is never at fault by itself. -/
def Met (lookup : Lookup) : Check → Prop
  | numeral var => ∀ text, Given lookup var text →
    ∃ value, Text.IsNumeral word64Count text value
  | positive var => ∀ text, Given lookup var text → ¬Text.IsNumeral word64Count text 0
  | ordered => ∀ millis seconds, HoldsNumber lookup .requeueBase 5 millis →
    HoldsNumber lookup .requeueMax 1000 seconds → millis ≤ seconds * 1000
  | real => ∀ text, Given lookup .requeueJitter text → ∃ jitter, Text.IsReal text jitter
  | finite => ∀ text, Given lookup .requeueJitter text →
    ∀ jitter, Text.IsReal text jitter → jitter.isFinite = true
  | kind => chosenPool lookup = "static" ∨ chosenPool lookup = "memory"
  | addresses => chosenPool lookup = "static" →
    ∀ items, HoldsList lookup .staticAddresses items → ∀ item ∈ items, IsAddress item
  | someAddress => chosenPool lookup = "static" → ¬HoldsList lookup .staticAddresses []
  | block var => chosenPool lookup = "memory" →
    ∀ text, Given lookup var text → ∃ block, Block.Describes text block
  | urls => ∀ items, HoldsList lookup .agentUrls items → ∀ url ∈ items, IsWebAddress url

/-- All checks, in the order in which they are made. -/
def order : List Check :=
  [numeral .cleanupInterval, positive .cleanupInterval, numeral .requeueBase, numeral .requeueMax,
    positive .requeueBase, ordered, real, finite, kind, addresses, someAddress,
    block .externalBlock, block .internalBlock, urls, numeral .agentTimeout]

end Check

/-- An item is the first one of a list without a property. -/
def FirstWithout (P : String → Prop) (texts : List String) (text : String) : Prop :=
  ∃ before after, texts = before ++ text :: after ∧ (∀ other ∈ before, P other) ∧ ¬P text

/-- A list with a first item without a property has one without it. -/
theorem FirstWithout.not_forall {P : String → Prop} {texts : List String} {text : String}
    (h : FirstWithout P texts text) : ¬∀ other ∈ texts, P other := by
  obtain ⟨before, after, rfl, -, htext⟩ := h
  exact fun hall => htext (hall text (by simp))

/-- The first item without a property is only one. -/
theorem FirstWithout.unique {P : String → Prop} {texts : List String} {text text' : String}
    (h : FirstWithout P texts text) (h' : FirstWithout P texts text') : text = text' := by
  classical
  have hfind : ∀ {text}, FirstWithout P texts text →
      texts.find? (fun other => !decide (P other)) = some text := by
    rintro text ⟨before, after, htexts, hbefore, htext⟩
    exact List.find?_eq_some_iff_append.mpr
      ⟨by simpa using htext, before, after, htexts, by simpa using hbefore⟩
  exact Option.some.inj ((hfind h).symm.trans (hfind h'))

/-- The error that a violated check is reported as. It names the variable with the reason why its
value cannot be read, the item at fault that comes first, or the kind of pool that is unknown. -/
inductive Reports (lookup : Lookup) : Check → ConfigError → Prop where
  | numeral {var : Variable} {text : String} {cause : Text.NumeralError} :
    Given lookup var text → Text.NumeralFault word64Count text cause →
    Reports lookup (.numeral var) (.badNumeral var cause)
  | interval : Reports lookup (.positive .cleanupInterval) .zeroInterval
  | base : Reports lookup (.positive .requeueBase) .zeroBase
  | ordered : Reports lookup .ordered .maxBelowBase
  | real {text : String} {cause : Text.RealError} :
    Given lookup .requeueJitter text → Text.RealFault text cause →
    Reports lookup .real (.badReal .requeueJitter cause)
  | finite : Reports lookup .finite .infiniteJitter
  | kind : Reports lookup .kind (.unknownPool (chosenPool lookup))
  | addresses {items : List String} {item : String} :
    HoldsList lookup .staticAddresses items → FirstWithout IsAddress items item →
    Reports lookup .addresses (.badAddress item)
  | someAddress : Reports lookup .someAddress .noAddresses
  | block {var : Variable} {text : String} {cause : BlockError} :
    Given lookup var text → Block.Fault text cause →
    Reports lookup (.block var) (.badBlock var cause)
  | urls {items : List String} {url : String} :
    HoldsList lookup .agentUrls items → FirstWithout IsWebAddress items url →
    Reports lookup .urls (.badAgentUrl url)

/-- The first violated check of a row is reported as an error. -/
inductive FirstViolated (lookup : Lookup) : List Check → ConfigError → Prop where
  | here {check : Check} {rest : List Check} {error : ConfigError} :
    ¬check.Met lookup → Reports lookup check error → FirstViolated lookup (check :: rest) error
  | behind {check : Check} {rest : List Check} {error : ConfigError} :
    check.Met lookup → FirstViolated lookup rest error → FirstViolated lookup (check :: rest) error

variable {lookup : Lookup} {var : Variable} {check : Check} {checks further : List Check}
  {error error' : ConfigError}

/-- What is given of a variable that is set is what it holds without the blanks around it. -/
theorem given_iff {raw text : String} (h : lookup var.name = some raw) :
    Given lookup var text ↔ text = Text.trim raw := by
  simp only [Given, h, Option.some.injEq, exists_eq_left', ← Text.trim_eq_iff, eq_comm]

/-- Of a variable that is not set nothing is given. -/
theorem not_given {text : String} (h : lookup var.name = none) : ¬Given lookup var text := by
  rintro ⟨raw, hset, -⟩
  rw [h] at hset
  cases hset

/-- Of a variable one text only is given. -/
theorem Given.unique {text text' : String} (h : Given lookup var text)
    (h' : Given lookup var text') : text = text' := by
  obtain ⟨raw, hset, htrims⟩ := h
  rw [given_iff hset] at h'
  rw [h', Text.trim_eq_iff.mpr htrims]

/-- A variable stands for the items that are read from it. -/
theorem holdsList_iff {items : List String} :
    HoldsList lookup var items ↔ items = Text.listItems ((lookup var.name).getD "") := by
  cases hset : lookup var.name with
  | none =>
    have hempty : Text.listItems "" = [] := rfl
    simp [HoldsList, hset, hempty]
  | some raw => simp [HoldsList, hset, ← Text.listItems_eq_iff, eq_comm]

/-- A variable stands for one list only. -/
theorem HoldsList.unique {items items' : List String} (h : HoldsList lookup var items)
    (h' : HoldsList lookup var items') : items = items' := by
  rw [holdsList_iff] at h h'
  rw [h, h']

/-- A check is reported as one error only. -/
theorem Reports.unique (h : Reports lookup check error) (h' : Reports lookup check error') :
    error = error' := by
  cases h with
  | numeral htext hfault =>
    cases h' with
    | numeral htext' hfault' => rw [hfault.unique (by decide) (htext.unique htext' ▸ hfault')]
  | real htext hfault =>
    cases h' with
    | real htext' hfault' => rw [hfault.unique (htext.unique htext' ▸ hfault')]
  | block htext hfault =>
    cases h' with
    | block htext' hfault' => rw [hfault.unique (htext.unique htext' ▸ hfault')]
  | addresses hitems hitem =>
    cases h' with
    | addresses hitems' hitem' => rw [hitem.unique (hitems.unique hitems' ▸ hitem')]
  | urls hitems hurl =>
    cases h' with
    | urls hitems' hurl' => rw [hurl.unique (hitems.unique hitems' ▸ hurl')]
  | interval | base | ordered | finite | kind | someAddress =>
    cases h'
    rfl

namespace FirstViolated

/-- A row of checks has one error only. -/
theorem unique (h : FirstViolated lookup checks error) (h' : FirstViolated lookup checks error') :
    error = error' := by
  induction h with
  | here hviolated hreports =>
    cases h' with
    | here _ hreports' => exact hreports.unique hreports'
    | behind hmet _ => exact absurd hmet hviolated
  | behind hmet _ ih =>
    cases h' with
    | here hviolated _ => exact absurd hmet hviolated
    | behind _ hrest => exact ih hrest

/-- Checks that are all met have no error. -/
theorem not_all_met (h : FirstViolated lookup checks error) :
    ¬∀ check ∈ checks, check.Met lookup := by
  intro hall
  induction h with
  | here hviolated _ => exact hviolated (hall _ List.mem_cons_self)
  | behind _ _ ih => exact ih fun check hcheck => hall check (List.mem_cons_of_mem _ hcheck)

/-- Further checks do not change the error. -/
theorem append (h : FirstViolated lookup checks error) :
    FirstViolated lookup (checks ++ further) error := by
  induction h with
  | here hviolated hreports => exact .here hviolated hreports
  | behind hmet _ ih => exact .behind hmet ih

/-- Behind checks that are all met the error is that of the further ones. -/
theorem behind_all (hall : ∀ check ∈ checks, check.Met lookup)
    (h : FirstViolated lookup further error) : FirstViolated lookup (checks ++ further) error := by
  induction checks with
  | nil => exact h
  | cons check rest ih =>
    rw [List.forall_mem_cons] at hall
    exact .behind hall.1 (ih hall.2)

end FirstViolated

variable {α β : Type} {Fits : α → Prop} {Fits' : β → Prop} {value : α}
  {answer : Except ConfigError α} {next : α → Except ConfigError β}

/-- An answer is settled by a row of checks: it is a value that fits and all checks are met, or it
is the error of the first one that is not. -/
inductive Settled (lookup : Lookup) (checks : List Check) (Fits : α → Prop) :
    Except ConfigError α → Prop where
  | ok {value : α} : (∀ check ∈ checks, check.Met lookup) → Fits value →
    Settled lookup checks Fits (.ok value)
  | error {error : ConfigError} : FirstViolated lookup checks error →
    Settled lookup checks Fits (.error error)

namespace Settled

/-- A value that fits is settled without a check. -/
theorem of_fits (h : Fits value) : Settled lookup [] Fits (.ok value) :=
  .ok (List.forall_mem_nil _) h

/-- A value that fits is settled by a check that is met. -/
theorem of_met (hmet : check.Met lookup) (h : Fits value) :
    Settled lookup [check] Fits (.ok value) :=
  .ok (List.forall_mem_singleton.mpr hmet) h

/-- An error is settled by a violated check that is reported as it. -/
theorem of_violated (hviolated : ¬check.Met lookup) (h : Reports lookup check error) :
    Settled lookup (check :: checks) Fits (.error error) :=
  .error (.here hviolated h)

/-- Checks that are met may be made before the others. -/
theorem behind (hall : ∀ check ∈ checks, check.Met lookup)
    (h : Settled lookup further Fits answer) : Settled lookup (checks ++ further) Fits answer := by
  cases h with
  | ok hmet hfits => exact .ok (List.forall_mem_append.mpr ⟨hall, hmet⟩) hfits
  | error hfirst => exact .error (hfirst.behind_all hall)

/-- Checks that are met may be made after the others. -/
theorem ahead (hall : ∀ check ∈ further, check.Met lookup) (h : Settled lookup checks Fits answer) :
    Settled lookup (checks ++ further) Fits answer := by
  cases h with
  | ok hmet hfits => exact .ok (List.forall_mem_append.mpr ⟨hmet, hall⟩) hfits
  | error hfirst => exact .error hfirst.append

/-- One setting after the other is settled by the checks of both, in this order. -/
theorem bind (h : Settled lookup checks Fits answer)
    (hnext : ∀ value, Fits value → Settled lookup further Fits' (next value)) :
    Settled lookup (checks ++ further) Fits' (answer >>= next) := by
  cases h with
  | ok hall hfits => exact behind hall (hnext _ hfits)
  | error hfirst => exact .error hfirst.append

/-- A check that is made by a condition comes before those of what is left. -/
theorem condition {failed : Prop} [Decidable failed] (hmet : check.Met lookup ↔ ¬failed)
    (hreports : Reports lookup check error) (h : ¬failed → Settled lookup checks Fits answer) :
    Settled lookup (check :: checks) Fits (if failed then .error error else answer) := by
  split
  · next hfailed => exact of_violated (fun hmet' => hmet.mp hmet' hfailed) hreports
  · next hpassed =>
    exact behind (List.forall_mem_singleton.mpr (hmet.mpr hpassed)) (h hpassed)

/-- There is a value exactly if all checks are met. -/
theorem exists_ok_iff (h : Settled lookup checks Fits answer) :
    (∃ value, answer = .ok value) ↔ ∀ check ∈ checks, check.Met lookup := by
  cases h with
  | ok hall _ => exact iff_of_true ⟨_, rfl⟩ hall
  | error hfirst => exact iff_of_false (by simp) hfirst.not_all_met

/-- The value fits. -/
theorem fits (h : Settled lookup checks Fits (.ok value)) : Fits value := by
  cases h with
  | ok _ hfits => exact hfits

/-- The error is that of the first violated check. -/
theorem eq_error_iff (h : Settled lookup checks Fits answer) :
    answer = .error error ↔ FirstViolated lookup checks error := by
  cases h with
  | ok hall _ => exact iff_of_false (by simp) fun hfirst => hfirst.not_all_met hall
  | error hfirst =>
    rw [Except.error.injEq]
    exact ⟨fun heq => heq ▸ hfirst, fun hfirst' => hfirst.unique hfirst'⟩

end Settled

end Balancer.Config
