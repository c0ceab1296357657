import AvailabilityGate.Proofs.CommandLine.Line
import AvailabilityGate.Proofs.Gateway.Bypass

/-!
Owns the way of the ignored namespaces from the command line, or the environment, to the gateway.

Main statement: the texts that are written for the ignored namespaces mean to the gateway what is
written in them, and nothing else depends on them, not even whether the program runs.
-/

namespace AvailabilityGate.CommandLine

/-! ### Everything else -/

/-- The settings without what they say of ignored namespaces. -/
def Settings.forget (settings : Settings) : Settings :=
  { settings with ignoredNamespaces := GatewayConfig.defaultIgnored }

namespace Settings

variable {flag : Flag} {before : Bool} {value : String} {settings : Settings}

theorem store_forget (other : flag ≠ .ignoredNamespaces) :
    settings.forget.store flag before value = forget <$> settings.store flag before value := by
  unfold store forget
  cases flag with
  | address => cases readAddress .address value <;> rfl
  | tlsCertFile => cases readPath .tlsCertFile value <;> rfl
  | tlsKeyFile => cases readPath .tlsKeyFile value <;> rfl
  | healthAddress => cases readAddress .healthAddress value <;> rfl
  | kubeconfig => cases readPath .kubeconfig value <;> rfl
  | masterUrl => rfl
  | ignoredNamespaces => exact absurd rfl other
  | unsetSelector => cases readUnsetSelector .unsetSelector value <;> rfl

theorem take_forget (other : flag ≠ .ignoredNamespaces) {outer : Settings} :
    take flag settings.forget outer.forget = (take flag settings outer).forget := by
  cases flag with
  | ignoredNamespaces => exact absurd rfl other
  | _ => rfl

end Settings

namespace Level

/-- The level without what was said on it of ignored namespaces. -/
def forget (level : Level) : Level where
  settings := level.settings.forget
  given := level.given.filter (· ≠ .ignoredNamespaces)

variable {environment : String → Option String} {level : Level} {flag : Flag}

theorem contains_given_forget (other : flag ≠ .ignoredNamespaces) :
    level.forget.given.contains flag = level.given.contains flag := by
  simp [forget, other]

theorem accept_forget (other : flag ≠ .ignoredNamespaces) (value : String) :
    level.forget.accept flag (some value) = forget <$> level.accept flag (some value) := by
  have settings : level.forget.settings = level.settings.forget := rfl
  unfold accept
  simp only [contains_given_forget other, settings, Settings.store_forget other]
  split
  · rfl
  · cases level.settings.store flag (level.given.contains flag) value with
    | error fault => rfl
    | ok stored =>
        refine congrArg Except.ok ?_
        simp [forget, other]

theorem accept_ignoredNamespaces (level : Level) (value : String) :
    level.accept .ignoredNamespaces (some value) = .ok {
      settings := { level.settings with
        ignoredNamespaces :=
          (if level.given.contains .ignoredNamespaces then level.settings.ignoredNamespaces
            else []) ++ GatewayConfig.splitNames value }
      given := .ignoredNamespaces :: level.given } := by
  unfold accept
  simp only [ne_eq, not_true_eq_false, decide_false, Bool.and_false, Bool.false_eq_true, if_false]
  rfl

/-- Whether a level is accepted, and with what, does not depend on the texts for the namespaces. -/
theorem foldlM_assign_forget (assignments : List Assignment) (level : Level) :
    (assignments.filter fun assignment => assignment.flag ≠ .ignoredNamespaces).foldlM assign
      level.forget = forget <$> assignments.foldlM assign level := by
  induction assignments generalizing level with
  | nil => rfl
  | cons head tail inductionHypothesis =>
      rw [List.foldlM_cons]
      by_cases concerned : head.flag = .ignoredNamespaces
      · -- A text for the namespaces is accepted whatever it is, and leaves no trace in the rest.
        rw [List.filter_cons_of_neg (by simpa using concerned), assign, concerned,
          accept_ignoredNamespaces]
        refine Eq.trans ?_ (inductionHypothesis _)
        simp [forget, Settings.forget]
      · rw [List.filter_cons_of_pos (by simpa using concerned), List.foldlM_cons, assign,
          accept_forget concerned, assign]
        cases level.accept head.flag (some head.value) with
        | error fault => rfl
        | ok after => exact inductionHypothesis after

end Level

/-- The environment without the variable for the ignored namespaces. -/
def withoutIgnored (environment : String → Option String) (name : String) : Option String :=
  if name = "BARBOSSA_IGNORED_NAMESPACES" then none else environment name

theorem environmentName_eq_iff (flag : Flag) :
    flag.environmentName = "BARBOSSA_IGNORED_NAMESPACES" ↔ flag = .ignoredNamespaces := by
  cases flag <;> decide +kernel

namespace Level

variable {environment : String → Option String} {level : Level} {flag : Flag}

/-- The names of namespaces at the end of a level, the environment being heard. -/
def namesIn (environment : String → Option String) (level : Level) : List String :=
  if level.given.contains .ignoredNamespaces then level.settings.ignoredNamespaces
  else
    match environment "BARBOSSA_IGNORED_NAMESPACES" with
    | none => level.settings.ignoredNamespaces
    | some text => GatewayConfig.splitNames text

theorem inherit_ignoredNamespaces (environment : String → Option String) (level : Level) :
    level.inherit environment .ignoredNamespaces =
      .ok { level with
        settings := { level.settings with ignoredNamespaces := level.namesIn environment } } := by
  have isName : Flag.ignoredNamespaces.environmentName = "BARBOSSA_IGNORED_NAMESPACES" :=
    (environmentName_eq_iff _).mpr rfl
  unfold inherit namesIn
  rw [isName]
  split
  · rfl
  · cases environment "BARBOSSA_IGNORED_NAMESPACES" <;> rfl

theorem inherit_forget (flag : Flag) (level : Level) :
    level.forget.inherit (withoutIgnored environment) flag =
      forget <$> level.inherit environment flag := by
  by_cases concerned : flag = .ignoredNamespaces
  · rw [concerned, inherit_ignoredNamespaces, inherit_ignoredNamespaces]
    have unheard : withoutIgnored environment "BARBOSSA_IGNORED_NAMESPACES" = none := if_pos rfl
    simp [forget, namesIn, unheard, Settings.forget]
  · have sameVariable :
        withoutIgnored environment flag.environmentName = environment flag.environmentName :=
      if_neg fun same => concerned ((environmentName_eq_iff flag).mp same)
    unfold inherit
    rw [contains_given_forget concerned, sameVariable]
    split
    · rfl
    · cases environment flag.environmentName with
      | none => rfl
      | some value =>
          have settings : level.forget.settings = level.settings.forget := rfl
          simp only [settings, Settings.store_forget concerned]
          cases level.settings.store flag false value <;> rfl

theorem foldlM_inherit_forget (flags : List Flag) (level : Level) :
    flags.foldlM (inherit (withoutIgnored environment)) level.forget =
      forget <$> flags.foldlM (inherit environment) level := by
  have passes : ∀ flag ∈ flags, ∀ level : Level,
      level.forget.inherit (withoutIgnored environment) flag =
        forget <$> level.inherit environment flag :=
    fun flag _ level => inherit_forget flag level
  exact Fallible.foldlM_eq_map_of_step passes level

/-- Of two levels that differ in what they say of namespaces, the rest is merged alike. -/
theorem merge_forget (outer inner : Level) :
    outer.forget.merge inner.forget = (outer.merge inner).forget := by
  unfold merge
  refine List.foldl_hom Settings.forget ?_
  intro settings flag
  by_cases concerned : flag = .ignoredNamespaces
  · have notGiven : outer.forget.given.contains flag = false := by simp [forget, concerned]
    rw [notGiven, Bool.false_and, if_neg Bool.false_ne_true]
    split
    · rw [concerned]
      rfl
    · rfl
  · rw [contains_given_forget concerned, contains_given_forget concerned]
    split
    · exact Settings.take_forget concerned
    · rfl

end Level

/-- The same without what it says of ignored namespaces. -/
def Invocation.forget (invocation : Invocation) : Invocation :=
  { invocation with settings := invocation.settings.forget }

namespace Line

/-- The assignments to other flags. -/
def others (assignments : List Assignment) : List Assignment :=
  assignments.filter fun assignment => assignment.flag ≠ .ignoredNamespaces

/-- The same without assignments to the ignored namespaces. -/
def forget (line : Line) : Line :=
  { line with
    outer := others line.outer
    inner := line.inner.map fun (command, assignments) => (command, others assignments) }

variable {environment : String → Option String}

theorem level_forget (assignments : List Assignment) :
    level (withoutIgnored environment) (others assignments) =
      Level.forget <$> level environment assignments := by
  have assigned : (others assignments).foldlM Level.assign {} =
      Level.forget <$> assignments.foldlM Level.assign {} :=
    Level.foldlM_assign_forget assignments {}
  unfold level
  rw [assigned]
  cases assignments.foldlM Level.assign {} with
  | error fault => rfl
  | ok after => exact Level.foldlM_inherit_forget Flag.all after

theorem invocation_forget (line : Line) :
    line.forget.invocation (withoutIgnored environment) =
      Invocation.forget <$> line.invocation environment := by
  unfold invocation forget
  rw [level_forget]
  cases level environment line.outer with
  | error fault => rfl
  | ok outer =>
      cases line.inner with
      | none => rfl
      | some inner =>
          obtain ⟨command, inner⟩ := inner
          show (level (withoutIgnored environment) (others inner) >>= fun after => _) =
            Invocation.forget <$> (level environment inner >>= fun after => _)
          rw [level_forget]
          cases level environment inner with
          | error fault => rfl
          | ok inner =>
              exact congrArg (fun settings => Except.ok (Invocation.mk (some command) settings))
                (outer.merge_forget inner)

end Line

/-! ### The ignored namespaces -/

theorem Settings.store_other {flag : Flag} {before : Bool} {value : String}
    {settings after : Settings} (other : flag ≠ .ignoredNamespaces)
    (stores : settings.store flag before value = .ok after) :
    after.ignoredNamespaces = settings.ignoredNamespaces := by
  cases flag with
  | ignoredNamespaces => exact absurd rfl other
  | masterUrl =>
      cases stores
      rfl
  | _ =>
      obtain ⟨_, _, isAfter⟩ := Fallible.bind_eq_ok_iff.mp stores
      cases isAfter
      rfl

/-- The texts, or others if there are none. -/
def textsOr : List String → List String → List String
  | [], others => others
  | text :: texts, _ => text :: texts

/-- The texts that are written for the ignored namespaces. -/
def assignedTexts (assignments : List Assignment) : List String :=
  (assignments.filter fun assignment => assignment.flag = .ignoredNamespaces).map Assignment.value

/-- What the default amounts to as a text. -/
def defaultText : String := "kube-system,kube-public"

namespace Level

variable {environment : String → Option String} {level after : Level} {texts : List String}

/-- What has been said on the level of ignored namespaces is in these texts. -/
structure Told (level : Level) (texts : List String) : Prop where
  given : level.given.contains .ignoredNamespaces = !texts.isEmpty
  names : level.settings.ignoredNamespaces =
    (textsOr texts [defaultText]).flatMap GatewayConfig.splitNames

theorem told_nothing : Told {} [] :=
  ⟨rfl, by decide +kernel⟩

theorem Told.assign (told : level.Told texts) {assignment : Assignment}
    (assigns : level.assign assignment = .ok after) :
    after.Told (texts ++ assignedTexts [assignment]) := by
  by_cases concerned : assignment.flag = .ignoredNamespaces
  · rw [Level.assign, concerned, accept_ignoredNamespaces] at assigns
    cases assigns
    have written : assignedTexts [assignment] = [assignment.value] := by
      simp [assignedTexts, concerned]
    rw [written]
    refine ⟨by simp, ?_⟩
    dsimp only
    rw [told.given, told.names]
    cases texts <;> simp [textsOr]
  · obtain ⟨text, settings, -, stores, rfl⟩ := exists_of_accept assigns
    have nothing : assignedTexts [assignment] = [] := by simp [assignedTexts, concerned]
    rw [nothing, List.append_nil]
    refine ⟨?_, (Settings.store_other concerned stores).trans told.names⟩
    rw [← told.given]
    simp [Ne.symm concerned]

theorem Told.foldlM_assign {assignments : List Assignment} (told : level.Told texts)
    (assigns : assignments.foldlM Level.assign level = .ok after) :
    after.Told (texts ++ assignedTexts assignments) := by
  induction assignments generalizing level texts with
  | nil =>
      cases assigns
      simpa [assignedTexts] using told
  | cons head tail inductionHypothesis =>
      obtain ⟨next, assignsHead, assignsTail⟩ := Fallible.bind_eq_ok_iff.mp assigns
      have all := inductionHypothesis (told.assign assignsHead) assignsTail
      have split : assignedTexts (head :: tail) = assignedTexts [head] ++ assignedTexts tail := by
        rw [assignedTexts, ← List.singleton_append, List.filter_append, List.map_append]
        rfl
      rwa [split, ← List.append_assoc]

/-- A flag that is heard of in the environment leaves alone what others say. -/
theorem inherit_keeps {flag : Flag} (inherits : level.inherit environment flag = .ok after) :
    after.given = level.given ∧ after.settings.ignoredNamespaces =
      if flag = .ignoredNamespaces then level.namesIn environment
      else level.settings.ignoredNamespaces := by
  by_cases concerned : flag = .ignoredNamespaces
  · rw [concerned, inherit_ignoredNamespaces] at inherits
    cases inherits
    exact ⟨rfl, (if_pos concerned).symm⟩
  · rw [if_neg concerned]
    unfold inherit at inherits
    split at inherits
    · cases inherits
      exact ⟨rfl, rfl⟩
    · split at inherits
      · cases inherits
        exact ⟨rfl, rfl⟩
      · obtain ⟨settings, stores, isAfter⟩ := Fallible.bind_eq_ok_iff.mp inherits
        cases isAfter
        exact ⟨rfl, Settings.store_other concerned stores⟩

theorem namesIn_of_inherit {flag : Flag} (inherits : level.inherit environment flag = .ok after) :
    after.namesIn environment = level.namesIn environment := by
  obtain ⟨sameGiven, named⟩ := inherit_keeps inherits
  rw [namesIn, sameGiven, named]
  unfold namesIn
  cases environment "BARBOSSA_IGNORED_NAMESPACES" <;> grind

theorem foldlM_inherit_keeps {flags : List Flag}
    (inherits : flags.foldlM (inherit environment) level = .ok after) :
    after.given = level.given ∧ after.settings.ignoredNamespaces =
      if .ignoredNamespaces ∈ flags then level.namesIn environment
      else level.settings.ignoredNamespaces := by
  induction flags generalizing level with
  | nil =>
      cases inherits
      exact ⟨rfl, rfl⟩
  | cons head tail inductionHypothesis =>
      obtain ⟨next, inheritsHead, inheritsTail⟩ := Fallible.bind_eq_ok_iff.mp inherits
      obtain ⟨sameGiven, named⟩ := inherit_keeps inheritsHead
      obtain ⟨sameGivenTail, namedTail⟩ := inductionHypothesis inheritsTail
      refine ⟨sameGivenTail.trans sameGiven, ?_⟩
      rw [namedTail, namesIn_of_inherit inheritsHead, named]
      grind

/-- Texts on the inner level win over those on the outer one. -/
theorem merge_ignoredNamespaces (outer inner : Level) :
    (outer.merge inner).ignoredNamespaces =
      if outer.given.contains .ignoredNamespaces && !inner.given.contains .ignoredNamespaces then
        outer.settings.ignoredNamespaces
      else inner.settings.ignoredNamespaces := by
  simp only [merge, Flag.all, List.foldl_cons, List.foldl_nil, Settings.take,
    apply_ite Settings.ignoredNamespaces, ite_self]

end Level

namespace Line

variable {environment : String → Option String} {line : Line}

/-- What the environment says of ignored namespaces, or else the default. -/
def textsAround (environment : String → Option String) : List String :=
  textsOr (environment "BARBOSSA_IGNORED_NAMESPACES").toList [defaultText]

theorem level_told {assignments : List Assignment} {after : Level}
    (reads : level environment assignments = .ok after) :
    after.given.contains .ignoredNamespaces = !(assignedTexts assignments).isEmpty ∧
      after.settings.ignoredNamespaces =
        (textsOr (assignedTexts assignments) (textsAround environment)).flatMap
          GatewayConfig.splitNames := by
  obtain ⟨last, assigns, inherits⟩ := Fallible.bind_eq_ok_iff.mp reads
  have told : last.Told (assignedTexts assignments) := Level.told_nothing.foldlM_assign assigns
  obtain ⟨sameGiven, named⟩ := Level.foldlM_inherit_keeps inherits
  refine ⟨sameGiven ▸ told.given, ?_⟩
  rw [named, if_pos (by decide), Level.namesIn, told.given, told.names]
  cases assignedTexts assignments with
  | cons text texts => rfl
  | nil =>
      unfold textsAround
      cases environment "BARBOSSA_IGNORED_NAMESPACES" with
      | none => rfl
      | some text => simp [textsOr]

/-- The texts for the ignored namespaces that count: those on the inner level, or else those on the
outer one, or else what the environment says. -/
def ignoredTexts (environment : String → Option String) (line : Line) : List String :=
  textsOr (assignedTexts (line.inner.elim [] Prod.snd))
    (textsOr (assignedTexts line.outer) (textsAround environment))

theorem invocation_ignoredNamespaces {result : Invocation}
    (reads : line.invocation environment = .ok result) :
    result.settings.ignoredNamespaces =
      (line.ignoredTexts environment).flatMap GatewayConfig.splitNames := by
  obtain ⟨outer, readsOuter, further⟩ := Fallible.bind_eq_ok_iff.mp reads
  obtain ⟨outerGiven, outerNames⟩ := level_told readsOuter
  unfold ignoredTexts
  cases isInner : line.inner with
  | none =>
      rw [isInner] at further
      cases further
      exact outerNames
  | some inner =>
      rw [isInner] at further
      obtain ⟨after, readsInner, isResult⟩ := Fallible.bind_eq_ok_iff.mp further
      obtain ⟨innerGiven, innerNames⟩ := level_told readsInner
      cases isResult
      show (outer.merge after).ignoredNamespaces = _
      rw [Level.merge_ignoredNamespaces, outerGiven, innerGiven, outerNames, innerNames,
        Option.elim_some]
      cases assignedTexts inner.2 <;> cases assignedTexts line.outer <;> rfl

end Line

/-- The ignored namespaces reach the gateway as they are written. -/
structure HeedsIgnored (environment : String → Option String) : Prop where
  /-- A command line that is understood says something. -/
  understood : ∀ {arguments : List String} {result : Invocation},
    read environment arguments = .ok result → ∃ line : Line, line.arguments = arguments
  /-- Whether it is understood, and all else that it asks for, does not depend on these texts. -/
  independent : ∀ (line : Line) (rest : Invocation),
    read (withoutIgnored environment) line.forget.arguments = .ok rest ↔
      ∃ result, read environment line.arguments = .ok result ∧ result.forget = rest
  /-- And if it is, the gateway lets pass the namespaces that the texts name. -/
  letsPass : ∀ (line : Line) {result : Invocation},
    read environment line.arguments = .ok result →
      result.settings.gatewayConfig.LetsPass (line.ignoredTexts environment)

theorem heedsIgnored (environment : String → Option String) : HeedsIgnored environment := by
  constructor
  case understood => exact Line.exists_line
  case independent =>
    intro line rest
    simp only [Line.read_arguments_eq_ok_iff, Line.invocation_forget, Fallible.map_eq_ok_iff]
  case letsPass =>
    intro line result reads
    have names := Line.invocation_ignoredNamespaces (Line.read_arguments_eq_ok_iff.mp reads)
    have isMeant : result.settings.gatewayConfig =
        .ofTexts (line.ignoredTexts environment) result.settings.unsetSelector := by
      rw [Settings.gatewayConfig, names]
      rfl
    rw [isMeant]
    exact GatewayConfig.ofTexts_letsPass _ _

theorem heedsIgnored_teams : ∃ result,
    read (fun _ => none) ["--ignored-namespaces=,team-b, team-a,,team-a"] = .ok result ∧
      result.settings.gatewayConfig.ignores (some "team-a") = true ∧
      result.settings.gatewayConfig.ignores (some " team-a") = false := by
  let line : Line := { outer := [.joined .ignoredNamespaces ",team-b, team-a,,team-a"] }
  have heeds := heedsIgnored fun _ => none
  obtain ⟨result, reads, -⟩ := (heeds.independent line _).mp rfl
  have letsPass := heeds.letsPass line reads
  refine ⟨result, reads, (letsPass.named _).mpr ⟨by decide, " team-a".toList, ?piece, ?core⟩,
    ?blank⟩
  case piece =>
    refine ⟨_, .head _, by decide, ",team-b,".toList, ",,team-a".toList, by decide, ?_, ?_⟩
    · rintro c ⟨⟩
      rfl
    · rintro c ⟨⟩
      rfl
  case core =>
    refine ⟨⟨?_, ?_⟩, [' '], [], by decide, by simp [Text.isBlank], by simp⟩
    · rintro c ⟨⟩
      rfl
    · rintro c ⟨⟩
      rfl
  case blank =>
    refine (letsPass.watched { uid := "1", operation := .create, home := some " team-a" } ?_).1
    rintro home ⟨⟩
    exact .inr fun isBare => absurd (isBare.1 ' ' rfl) (by decide)

end AvailabilityGate.CommandLine
