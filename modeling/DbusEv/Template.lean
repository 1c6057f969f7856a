/-
**The template of the Home Assistant request** (`dbus_ev/ha_client.py`, `build_template`).

The template is a text with tokens in it, which are replaced one after the other: first what is
read of Home Assistant, with the VIN among it, and then nine entity ids more.

* `buildTemplate` — the chain of replacements.
* `vinLiteral` — what the literal of the VIN denotes to Jinja.
* `vin_survives_iff` — a static VIN arrives where it has no quote, no carriage return and no later
  token in it. Jinja's quotes are not escaped by doubling them: the two quotes end one literal and
  begin the next.
-/

import DbusEv.Lib.Jinja
import DbusEv.Lib.Replace

set_option autoImplicit false

namespace DbusEv.Template

open DbusEv.Jinja

/-- A property of the characters of a fixed text is checked on each. -/
theorem forall_mem_of_all {p : Char → Prop} [DecidablePred p] {text : List Char}
    (all : text.all (fun c => decide (p c)) = true) : ∀ c ∈ text, p c :=
  fun c inside => of_decide_eq_true (List.all_eq_true.mp all c inside)

/-! ### Building the template -/

/-- A line of the template that asks for a state where there is an entity. -/
def stateLine (key token alternative : String) : String :=
  "  \"" ++ key ++ "\": states('" ++ token ++ "') | string if '" ++ token ++ "' != '' else " ++
    alternative

/-- A line of the template that asks for a unit where there is an entity. -/
def unitLine (key token alternative : String) : String :=
  "  \"" ++ key ++ "\": state_attr('" ++ token ++ "', 'unit_of_measurement') if '" ++ token ++
    "' != '' else " ++ alternative

/-- `TEMPLATE_BODY`. -/
def templateBody : String :=
  "\x7b\x7b \x7b\n" ++
  ("  \"soc\": states('@SOC@') | string,\n" ++
  (stateLine "target_soc" "@TARGET_SOC@" "none,\n" ++
  (stateLine "vin" "@VIN_ENTITY@" "'@VIN_VALUE@',\n" ++
  (stateLine "battery_capacity" "@BATTERY_CAPACITY@" "none,\n" ++
  (stateLine "charging_state" "@CHARGING_STATE@" "none,\n" ++
  (stateLine "odometer" "@ODOMETER@" "none,\n" ++
  (stateLine "range_to_go" "@RANGE_TO_GO@" "none,\n" ++
  (stateLine "latitude" "@LATITUDE@" "none,\n" ++
  (stateLine "longitude" "@LONGITUDE@" "none,\n" ++
  (stateLine "at_site" "@AT_SITE@" "none,\n" ++
  (stateLine "current" "@CURRENT@" "none,\n" ++
  (stateLine "power" "@POWER@" "none,\n" ++
  (unitLine "power_unit" "@POWER@" "none,\n" ++
  (unitLine "odometer_unit" "@ODOMETER@" "none,\n" ++
  (unitLine "range_to_go_unit" "@RANGE_TO_GO@" "none\n" ++
  "\x7d | to_json \x7d\x7d")))))))))))))))

/-- `_is_ha_entity`. -/
def isHaEntity (value : List Char) : Bool := decide (value ≠ []) && decide ('.' ∈ value)

/-- The arguments of `build_template`. -/
structure Arguments where
  socEntity : List Char
  targetSocEntity : List Char
  vinEntity : List Char
  batteryCapacityEntity : List Char
  chargingStateEntity : List Char
  odometerEntity : List Char
  rangeToGoEntity : List Char
  latitudeEntity : List Char
  longitudeEntity : List Char
  atSiteEntity : List Char
  currentEntity : List Char
  powerEntity : List Char

/-- One `.replace(token, new)`. -/
structure Substitution where
  token : List Char
  new : List Char

def substitute (substitutions : List Substitution) (text : List Char) : List Char :=
  substitutions.foldl (fun text s => replaceAll s.token s.new text) text

/-- `vin_entity.replace("\\", "\\\\").replace("'", "''")`. -/
def escape (vin : List Char) : List Char :=
  replaceAll ['\''] ['\'', '\''] (replaceAll ['\\'] ['\\', '\\'] vin)

/-- `vin_entity_token`. -/
def vinEntityToken (vin : List Char) : List Char := if isHaEntity vin then vin else []

/-- `vin_value_token`. -/
def vinValueToken (vin : List Char) : List Char :=
  if isHaEntity vin then [] else if vin ≠ [] then escape vin else []

/-- The replacements up to the VIN's entity. -/
def earlier (args : Arguments) : List Substitution :=
  [⟨"@SOC@".toList, args.socEntity⟩,
    ⟨"@TARGET_SOC@".toList, args.targetSocEntity⟩,
    ⟨"@VIN_ENTITY@".toList, vinEntityToken args.vinEntity⟩]

/-- The replacements behind that of the VIN's value. -/
def later (args : Arguments) : List Substitution :=
  [⟨"@BATTERY_CAPACITY@".toList, args.batteryCapacityEntity⟩,
    ⟨"@CHARGING_STATE@".toList, args.chargingStateEntity⟩,
    ⟨"@ODOMETER@".toList, args.odometerEntity⟩,
    ⟨"@RANGE_TO_GO@".toList, args.rangeToGoEntity⟩,
    ⟨"@LATITUDE@".toList, args.latitudeEntity⟩,
    ⟨"@LONGITUDE@".toList, args.longitudeEntity⟩,
    ⟨"@AT_SITE@".toList, args.atSiteEntity⟩,
    ⟨"@CURRENT@".toList, args.currentEntity⟩,
    ⟨"@POWER@".toList, args.powerEntity⟩]

/-- `build_template`. -/
def buildTemplate (args : Arguments) : List Char :=
  substitute (earlier args ++ ⟨"@VIN_VALUE@".toList, vinValueToken args.vinEntity⟩ :: later args)
    templateBody.toList

/-! ### What the VIN's literal denotes -/

/-- The value of the literal behind `else` in the template's `vin` entry, in an expression that
Jinja can lex. -/
def vinLiteral [Escapes] (template : List Char) : Option (List Char) :=
  let tokens := lex .code (normalize template)
  if .error ∈ tokens then none
  else do
    let entry ← after [.str "vin".toList, .code ':'] tokens
    let alternative ← after (codes "else".toList) entry
    literal alternative

/-! ### The template's pieces -/

/-- What follows an empty text: the alternative, up to the end of its line. -/
def otherwise (alternative : String) : List Char := " else ".toList ++ alternative.toList

theorem otherwise_eq (alternative : String) :
    otherwise alternative = " else ".toList ++ alternative.toList := rfl

/-- The pieces of a `stateLine` behind `lead`; its alternative is in front of the next piece. -/
def statePieces (lead : List Char) (key token : String) : List Piece :=
  [⟨lead ++ "  ".toList, '"', key.toList⟩,
    ⟨": states(".toList, '\'', token.toList⟩,
    ⟨") | string if ".toList, '\'', token.toList⟩,
    ⟨" != ".toList, '\'', []⟩]

/-- The pieces of a `unitLine`. -/
def unitPieces (lead : List Char) (key token : String) : List Piece :=
  [⟨lead ++ "  ".toList, '"', key.toList⟩,
    ⟨": state_attr(".toList, '\'', token.toList⟩,
    ⟨", ".toList, '\'', "unit_of_measurement".toList⟩,
    ⟨") if ".toList, '\'', token.toList⟩,
    ⟨" != ".toList, '\'', []⟩]

theorem toList_stateLine (key token alternative : String) (tail : List Char) :
    (stateLine key token alternative).toList ++ tail =
      render (otherwise alternative ++ tail) (statePieces [] key token) := by
  have opening : "  \"".toList = "  ".toList ++ ['"'] := by decide
  have asks : "\": states('".toList = '"' :: (": states(".toList ++ ['\'']) := by decide
  have condition : "') | string if '".toList = '\'' :: (") | string if ".toList ++ ['\'']) := by
    decide
  have ending : "' != '' else ".toList =
      '\'' :: (" != ".toList ++ ['\'', '\''] ++ " else ".toList) := by decide
  simp only [stateLine, String.toList_append, opening, asks, condition, ending, render,
    otherwise_eq, statePieces, List.append_assoc, List.cons_append, List.nil_append]

theorem toList_unitLine (key token alternative : String) (tail : List Char) :
    (unitLine key token alternative).toList ++ tail =
      render (otherwise alternative ++ tail) (unitPieces [] key token) := by
  have opening : "  \"".toList = "  ".toList ++ ['"'] := by decide
  have asks : "\": state_attr('".toList = '"' :: (": state_attr(".toList ++ ['\'']) := by decide
  have unit : "', 'unit_of_measurement') if '".toList = '\'' :: (", ".toList ++
      '\'' :: ("unit_of_measurement".toList ++ '\'' :: (") if ".toList ++ ['\'']))) := by decide
  have ending : "' != '' else ".toList =
      '\'' :: (" != ".toList ++ ['\'', '\''] ++ " else ".toList) := by decide
  simp only [unitLine, String.toList_append, opening, asks, unit, ending, render,
    otherwise_eq, unitPieces, List.append_assoc, List.cons_append, List.nil_append]

/-- The template in front of the VIN's value. -/
def headPieces : List Piece :=
  ⟨"\x7b\x7b \x7b\n  ".toList, '"', "soc".toList⟩ :: ⟨": states(".toList, '\'', "@SOC@".toList⟩ ::
    (statePieces ") | string,\n".toList "target_soc" "@TARGET_SOC@" ++
      statePieces (otherwise "none,\n") "vin" "@VIN_ENTITY@")

/-- The template behind the VIN's value. -/
def tailPieces : List Piece :=
  statePieces ",\n".toList "battery_capacity" "@BATTERY_CAPACITY@" ++
  (statePieces (otherwise "none,\n") "charging_state" "@CHARGING_STATE@" ++
  (statePieces (otherwise "none,\n") "odometer" "@ODOMETER@" ++
  (statePieces (otherwise "none,\n") "range_to_go" "@RANGE_TO_GO@" ++
  (statePieces (otherwise "none,\n") "latitude" "@LATITUDE@" ++
  (statePieces (otherwise "none,\n") "longitude" "@LONGITUDE@" ++
  (statePieces (otherwise "none,\n") "at_site" "@AT_SITE@" ++
  (statePieces (otherwise "none,\n") "current" "@CURRENT@" ++
  (statePieces (otherwise "none,\n") "power" "@POWER@" ++
  (unitPieces (otherwise "none,\n") "power_unit" "@POWER@" ++
  (unitPieces (otherwise "none,\n") "odometer_unit" "@ODOMETER@" ++
  unitPieces (otherwise "none,\n") "range_to_go_unit" "@RANGE_TO_GO@"))))))))))

def lastText : List Char := otherwise "none\n" ++ "\x7d | to_json \x7d\x7d".toList

theorem templateBody_eq : templateBody.toList = render (" else ".toList ++ '\'' ::
    ("@VIN_VALUE@".toList ++ '\'' :: render lastText tailPieces)) headPieces := by
  have start : "\x7b\x7b \x7b\n".toList ++ "  \"soc\": states('@SOC@') | string,\n".toList =
      "\x7b\x7b \x7b\n  ".toList ++ '"' :: ("soc".toList ++ '"' :: (": states(".toList ++
        '\'' :: ("@SOC@".toList ++ '\'' :: ") | string,\n".toList))) := by
    decide +kernel
  have value : otherwise "'@VIN_VALUE@',\n" =
      " else ".toList ++ '\'' :: ("@VIN_VALUE@".toList ++ '\'' :: ",\n".toList) := by
    decide
  rw [templateBody, headPieces, tailPieces, lastText, String.toList_append, String.toList_append,
    ← List.append_assoc, start]
  simp only [String.toList_append, toList_stateLine, toList_unitLine, value, render_append]
  simp only [render, statePieces, unitPieces, List.append_assoc, List.cons_append,
    List.nil_append]

/-! ### Replacing, one after the other -/

/-- The characters that mean something in a literal. -/
def special : List Char := ['\'', '"', '\\']

theorem mem_special_of_isQuote {q : Char} (quote : isQuote q = true) : q ∈ special := by
  have cases : q = '\'' ∨ q = '"' := by simpa [isQuote] using quote
  cases cases with
  | inl single => simp [single, special]
  | inr twice => simp [twice, special]

/-- What `escape` doubles is special. -/
theorem mem_special_of_mem {c : Char} (doubled : c ∈ ['\'', '\\']) : c ∈ special := by
  have cases : c = '\'' ∨ c = '\\' := by simpa using doubled
  cases cases with
  | inl quote => simp [quote, special]
  | inr backslash => simp [backslash, special]

/-- A replacement of a text between two `@`. -/
structure Substitution.Marked (s : Substitution) : Prop where
  marked : '@' ∈ s.token
  plain : ∀ c ∈ s.token, c ∉ special

/-- A replacement by an entity id. -/
structure Substitution.Clean (s : Substitution) : Prop extends s.Marked where
  unmarked : '@' ∉ s.new
  plainNew : ∀ c ∈ s.new, c ∉ special

variable {substitutions : List Substitution}

theorem Substitution.Marked.nonempty {s : Substitution} (marked : s.Marked) : s.token ≠ [] :=
  List.ne_nil_of_mem marked.marked

theorem substitute_separates (marked : ∀ s ∈ substitutions, s.Marked) {q : Char}
    (quote : q ∈ special) (first second : List Char) :
    substitute substitutions (first ++ q :: second) =
      substitute substitutions first ++ q :: substitute substitutions second := by
  induction substitutions generalizing first second with
  | nil => rfl
  | cons s more ih =>
    have here := marked s List.mem_cons_self
    have apart : q ∉ s.token := fun inside => here.plain q inside quote
    show substitute more (replaceAll s.token s.new (first ++ q :: second)) = _
    rw [replaceAll_append_cons here.nonempty apart]
    exact ih (fun s inside => marked s (List.mem_cons_of_mem _ inside)) _ _

theorem substitute_of_absent (marked : ∀ s ∈ substitutions, s.Marked) {text : List Char}
    (none : ∀ s ∈ substitutions, ¬ s.token <:+: text) : substitute substitutions text = text := by
  induction substitutions with
  | nil => rfl
  | cons s more ih =>
    have here := (marked s List.mem_cons_self).nonempty
    show substitute more (replaceAll s.token s.new text) = text
    rw [replaceAll_of_absent here (none s List.mem_cons_self)]
    exact ih (fun s inside => marked s (List.mem_cons_of_mem _ inside))
      fun s inside => none s (List.mem_cons_of_mem _ inside)

theorem substitute_of_not_mem (marked : ∀ s ∈ substitutions, s.Marked) {text : List Char}
    (none : '@' ∉ text) : substitute substitutions text = text :=
  substitute_of_absent marked fun s inside found =>
    none (found.subset (marked s inside).marked)

/-- A token that has none of the earlier ones in it becomes what the later replacements leave of
its new text. -/
theorem substitute_token {first rest : List Substitution} {s : Substitution}
    (marked : ∀ t ∈ first ++ s :: rest, t.Marked)
    (apart : (first ++ s :: rest).Pairwise fun a b => ¬ a.token <:+: b.token) :
    substitute (first ++ s :: rest) s.token = substitute rest s.new := by
  have passed : substitute first s.token = s.token :=
    substitute_of_absent (fun t inside => marked t (List.mem_append_left _ inside))
      fun t inside => (List.pairwise_append.mp apart).2.2 t inside s List.mem_cons_self
  have here := replaceAll_self
    (marked s (List.mem_append_right _ List.mem_cons_self)).nonempty s.new
  unfold substitute at passed ⊢
  rw [List.foldl_append, passed, List.foldl_cons, here]

theorem count_substitute_le (clean : ∀ s ∈ substitutions, s.Clean) (text : List Char) :
    (substitute substitutions text).count '@' ≤ text.count '@' := by
  induction substitutions generalizing text with
  | nil => exact le_rfl
  | cons s more ih =>
    have here := clean s List.mem_cons_self
    exact (ih (fun s inside => clean s (List.mem_cons_of_mem _ inside)) _).trans
      (count_replaceAll_le here.nonempty here.unmarked text)

/-- **A text with a token in it changes**: there are fewer `@` in it. -/
theorem substitute_ne (clean : ∀ s ∈ substitutions, s.Clean) {text : List Char}
    {s : Substitution} (inside : s ∈ substitutions) (found : s.token <:+: text) :
    substitute substitutions text ≠ text := by
  have fewer : (substitute substitutions text).count '@' < text.count '@' := by
    induction substitutions with
    | nil => exact absurd inside List.not_mem_nil
    | cons t more ih =>
      have here := clean t List.mem_cons_self
      have tailClean : ∀ s ∈ more, s.Clean := fun s later => clean s (List.mem_cons_of_mem _ later)
      show (substitute more (replaceAll t.token t.new text)).count '@' < _
      by_cases first : t.token <:+: text
      · exact (count_substitute_le tailClean _).trans_lt
          (count_replaceAll_lt here.marked here.unmarked first)
      · rw [replaceAll_of_absent here.nonempty first]
        cases List.mem_cons.mp inside with
        | inl same => exact absurd (same ▸ found) first
        | inr later => exact ih tailClean later
  intro same
  rw [same] at fewer
  exact lt_irrefl _ fewer

/-! ### Doubling and replacing -/

/-- A text without doubled characters that begins a doubled text begins the text. -/
theorem begins_of_begins_double {doubled pattern text : List Char}
    (apart : ∀ c ∈ pattern, c ∉ doubled) (begins : pattern <+: double doubled text) :
    pattern <+: text := by
  induction pattern generalizing text with
  | nil => exact List.nil_prefix
  | cons d pattern ih =>
    cases text with
    | nil => exact absurd (List.prefix_nil.mp begins) (List.cons_ne_nil d pattern)
    | cons c text =>
      rw [double_cons] at begins
      split at begins
      · next twice =>
        have same := (List.cons_prefix_cons.mp begins).1
        exact absurd (same ▸ twice) (apart d List.mem_cons_self)
      · obtain ⟨same, rest⟩ := List.cons_prefix_cons.mp begins
        exact List.cons_prefix_cons.mpr
          ⟨same, ih (fun c inside => apart c (List.mem_cons_of_mem d inside)) rest⟩

theorem replaceAll_double {doubled pattern new : List Char} (nonempty : pattern ≠ [])
    (apart : ∀ c ∈ pattern, c ∉ doubled) (apartNew : ∀ c ∈ new, c ∉ doubled)
    (text : List Char) : replaceAll pattern new (double doubled text) =
      double doubled (replaceAll pattern new text) := by
  induction text using replaceAll_induction nonempty with
  | nil => rfl
  | found text ih =>
    rw [double_append, double_of_not_mem apart, replaceAll_append nonempty,
      replaceAll_append nonempty, double_append, double_of_not_mem apartNew, ih]
  | other c text none ih =>
    rw [replaceAll_cons none, double_cons, double_cons, ← ih]
    split
    · next twice =>
      have separate : c ∉ pattern := fun inside => apart c inside twice
      have step : ∀ text, replaceAll pattern new (c :: text) = c :: replaceAll pattern new text :=
        fun text => replaceAll_append_cons nonempty separate [] text
      show replaceAll pattern new (c :: c :: double doubled text) = _
      rw [step, step]
      rfl
    · next once =>
      have still : ¬ pattern <+: c :: double doubled text := by
        intro begins
        have shape : double doubled (c :: text) = c :: double doubled text := by
          rw [double_cons, if_neg once]
          rfl
        exact none (begins_of_begins_double apart (shape ▸ begins))
      exact replaceAll_cons still

/-- **The replacements do not see the doubling.** -/
theorem substitute_double (clean : ∀ s ∈ substitutions, s.Clean) (text : List Char) :
    substitute substitutions (double ['\'', '\\'] text) =
      double ['\'', '\\'] (substitute substitutions text) := by
  induction substitutions generalizing text with
  | nil => rfl
  | cons s more ih =>
    have here := clean s List.mem_cons_self
    show substitute more (replaceAll s.token s.new (double ['\'', '\\'] text)) = _
    rw [replaceAll_double here.nonempty
      (fun c inside twice => here.plain c inside (mem_special_of_mem twice))
      fun c inside twice => here.plainNew c inside (mem_special_of_mem twice)]
    exact ih (fun s inside => clean s (List.mem_cons_of_mem _ inside)) _

theorem normalize_double {doubled : List Char} (notReturn : '\r' ∉ doubled)
    (notFeed : '\n' ∉ doubled) (text : List Char) :
    normalize (double doubled text) = double doubled (normalize text) := by
  have flagged : ∀ afterReturn, normalizeFrom afterReturn (double doubled text) =
      double doubled (normalizeFrom afterReturn text) := by
    induction text with
    | nil => exact fun _ => rfl
    | cons c rest ih =>
      intro afterReturn
      rw [double_cons]
      by_cases twice : c ∈ doubled
      · have other : c ≠ '\r' := fun same => notReturn (same ▸ twice)
        have another : c ≠ '\n' := fun same => notFeed (same ▸ twice)
        simp [normalizeFrom, double_cons, twice, other, another, ih]
      · rw [if_neg twice]
        show normalizeFrom afterReturn (c :: double doubled rest) = _
        rw [normalizeFrom, normalizeFrom, ih, ih]
        split
        · rw [double_cons, if_neg notFeed]
          rfl
        · split
          · rfl
          · rw [double_cons, if_neg twice]
            rfl
  exact flagged false

theorem escape_eq (vin : List Char) : escape vin = double ['\'', '\\'] vin := by
  unfold escape
  rw [replaceAll_singleton, replaceAll_singleton, List.flatMap_assoc]
  unfold double
  congr 1
  funext c
  by_cases backslash : c = '\\'
  · simp [backslash]
  · by_cases quote : c = '\'' <;> simp [backslash, quote]

/-! ### The arguments -/

/-- An entity id. -/
structure EntityId where
  text : List Char
  plain : ∀ c ∈ text, c ∉ special
  unmarked : '@' ∉ text

/-- A VIN that is not looked up. -/
structure StaticVin where
  text : List Char
  static : isHaEntity text = false

/-- The entities of everything but the VIN. -/
structure Entities where
  soc : EntityId
  targetSoc : EntityId
  batteryCapacity : EntityId
  chargingState : EntityId
  odometer : EntityId
  rangeToGo : EntityId
  latitude : EntityId
  longitude : EntityId
  atSite : EntityId
  current : EntityId
  power : EntityId

def Entities.arguments (entities : Entities) (vin : StaticVin) : Arguments where
  socEntity := entities.soc.text
  targetSocEntity := entities.targetSoc.text
  vinEntity := vin.text
  batteryCapacityEntity := entities.batteryCapacity.text
  chargingStateEntity := entities.chargingState.text
  odometerEntity := entities.odometer.text
  rangeToGoEntity := entities.rangeToGo.text
  latitudeEntity := entities.latitude.text
  longitudeEntity := entities.longitude.text
  atSiteEntity := entities.atSite.text
  currentEntity := entities.current.text
  powerEntity := entities.power.text

theorem vinValueToken_static (vin : StaticVin) : vinValueToken vin.text = escape vin.text := by
  unfold vinValueToken
  rw [vin.static]
  by_cases empty : vin.text = []
  · simp [empty, escape]
  · simp [empty]

theorem vinEntityToken_static (vin : StaticVin) : vinEntityToken vin.text = [] := by
  simp [vinEntityToken, vin.static]

/-- The tokens, in the order of their replacements. -/
def earlierTokens : List (List Char) :=
  ["@SOC@".toList, "@TARGET_SOC@".toList, "@VIN_ENTITY@".toList]

def laterTokens : List (List Char) :=
  ["@BATTERY_CAPACITY@".toList, "@CHARGING_STATE@".toList, "@ODOMETER@".toList,
    "@RANGE_TO_GO@".toList, "@LATITUDE@".toList, "@LONGITUDE@".toList, "@AT_SITE@".toList,
    "@CURRENT@".toList, "@POWER@".toList]

theorem tokens_plain : ∀ token ∈ earlierTokens ++ "@VIN_VALUE@".toList :: laterTokens,
    '@' ∈ token ∧ ∀ c ∈ token, c ∉ special := by
  have checked : (earlierTokens ++ "@VIN_VALUE@".toList :: laterTokens).all (fun token =>
      decide ('@' ∈ token) && token.all fun c => decide (c ∉ special)) = true := by
    decide +kernel
  intro token inside
  have both := Bool.and_eq_true_iff.mp (List.all_eq_true.mp checked token inside)
  exact ⟨of_decide_eq_true both.1, forall_mem_of_all both.2⟩

theorem tokens_apart :
    (earlierTokens ++ "@VIN_VALUE@".toList :: laterTokens).Pairwise fun a b => ¬ a <:+: b := by
  decide +kernel

/-- All replacements, in their order. -/
def replacements (args : Arguments) : List Substitution :=
  earlier args ++ ⟨"@VIN_VALUE@".toList, vinValueToken args.vinEntity⟩ :: later args

theorem marked_replacements (args : Arguments) : ∀ s ∈ replacements args, s.Marked := by
  intro s inside
  have token : s.token ∈ (replacements args).map Substitution.token := List.mem_map_of_mem inside
  have plain := tokens_plain s.token token
  exact ⟨plain.1, plain.2⟩

theorem apart_replacements (args : Arguments) :
    (replacements args).Pairwise fun a b => ¬ a.token <:+: b.token :=
  List.pairwise_map.mp (show ((replacements args).map Substitution.token).Pairwise _ from
    tokens_apart)

/-- The entity of no entity. -/
def EntityId.none : EntityId := ⟨[], by simp, by simp⟩

def Entities.earlierIds (entities : Entities) : List EntityId :=
  [entities.soc, entities.targetSoc, .none]

def Entities.laterIds (entities : Entities) : List EntityId :=
  [entities.batteryCapacity, entities.chargingState, entities.odometer, entities.rangeToGo,
    entities.latitude, entities.longitude, entities.atSite, entities.current, entities.power]

def substitution (pair : List Char × EntityId) : Substitution := ⟨pair.1, pair.2.text⟩

section Arguments

variable (entities : Entities) (vin : StaticVin)

theorem earlier_eq : earlier (entities.arguments vin) =
    (earlierTokens.zip entities.earlierIds).map substitution := by
  show [_, _, Substitution.mk _ (vinEntityToken vin.text)] = _
  rw [vinEntityToken_static]
  rfl

theorem later_eq : later (entities.arguments vin) =
    (laterTokens.zip entities.laterIds).map substitution := rfl

theorem clean_substitution {pair : List Char × EntityId}
    (token : pair.1 ∈ earlierTokens ++ "@VIN_VALUE@".toList :: laterTokens) :
    (substitution pair).Clean where
  marked := (tokens_plain pair.1 token).1
  plain := (tokens_plain pair.1 token).2
  unmarked := pair.2.unmarked
  plainNew := pair.2.plain

theorem clean_later : ∀ s ∈ later (entities.arguments vin), s.Clean := by
  intro s inside
  rw [later_eq] at inside
  obtain ⟨pair, zipped, rfl⟩ := List.mem_map.mp inside
  exact clean_substitution
    (List.mem_append_right _ (List.mem_cons_of_mem _ (List.of_mem_zip zipped).1))

/-! ### What Jinja sees of a piece -/

/-- A part of the template, built and read. -/
@[irreducible] def seen (text : List Char) : List Char :=
  normalize (substitute (replacements (entities.arguments vin)) text)

theorem seen_separates {q : Char} (quote : isQuote q = true) (first second : List Char) :
    seen entities vin (first ++ q :: second) =
      seen entities vin first ++ q :: seen entities vin second := by
  have notReturn : q ≠ '\r' := by
    rintro rfl
    exact absurd quote (by decide)
  have notFeed : q ≠ '\n' := by
    rintro rfl
    exact absurd quote (by decide)
  unfold seen
  rw [substitute_separates (marked_replacements _) (mem_special_of_isQuote quote),
    normalize_append_cons notReturn notFeed]

theorem seen_of_plain {text : List Char} (plain : ∀ c ∈ text, c ≠ '@' ∧ c ≠ '\r') :
    seen entities vin text = text := by
  unfold seen
  rw [substitute_of_not_mem (marked_replacements _) fun inside => (plain _ inside).1 rfl]
  exact normalize_of_not_mem fun inside => (plain _ inside).2 rfl

theorem mem_replacements {token : List Char} (inside : token ∈ earlierTokens ++ laterTokens) :
    ∃ s ∈ replacements (entities.arguments vin), ∃ id : EntityId,
      s.token = token ∧ s.new = id.text := by
  have fromZip : ∀ {tokens : List (List Char)} {ids : List EntityId} {substitutions},
      tokens.length = ids.length → substitutions = (tokens.zip ids).map substitution →
      token ∈ tokens → ∃ s ∈ substitutions, ∃ id : EntityId, s.token = token ∧ s.new = id.text := by
    rintro tokens ids _ lengths rfl among
    rw [← List.map_fst_zip (le_of_eq lengths)] at among
    obtain ⟨pair, zipped, rfl⟩ := List.mem_map.mp among
    exact ⟨_, List.mem_map_of_mem zipped, pair.2, rfl, rfl⟩
  cases List.mem_append.mp inside with
  | inl first =>
    obtain ⟨s, member, found⟩ := fromZip rfl (earlier_eq entities vin) first
    exact ⟨s, List.mem_append_left _ member, found⟩
  | inr second =>
    obtain ⟨s, member, found⟩ := fromZip rfl (later_eq entities vin) second
    exact ⟨s, List.mem_append_right _ (List.mem_cons_of_mem _ member), found⟩

/-- An entity's token is seen as the entity. -/
theorem seen_token {token : List Char} (inside : token ∈ earlierTokens ++ laterTokens) :
    ∃ id : EntityId, seen entities vin token = normalize id.text := by
  obtain ⟨s, member, id, same, new⟩ := mem_replacements entities vin inside
  obtain ⟨first, rest, shape⟩ := List.append_of_mem member
  have marked := marked_replacements (entities.arguments vin)
  have apart := apart_replacements (entities.arguments vin)
  refine ⟨id, ?_⟩
  rw [shape] at marked apart
  unfold seen
  rw [shape, ← same, substitute_token marked apart, new, substitute_of_not_mem _ id.unmarked]
  exact fun t later => marked t (List.mem_append_right _ (List.mem_cons_of_mem s later))

/-- The VIN is seen as its later replacements leave it, doubled. -/
theorem seen_value : seen entities vin "@VIN_VALUE@".toList = double ['\'', '\\']
    (normalize (substitute (later (entities.arguments vin)) vin.text)) := by
  have value := substitute_token (marked_replacements (entities.arguments vin))
    (apart_replacements (entities.arguments vin))
  unfold seen replacements
  rw [value, ← normalize_double (by decide) (by decide),
    ← substitute_double (clean_later entities vin), ← escape_eq, ← vinValueToken_static]
  rfl

end Arguments

/-- A piece of the template: its code has nothing to replace in it, and its literal has nothing or
is one token. -/
def Sound (piece : Piece) : Prop :=
  isQuote piece.quote = true ∧ (∀ c ∈ piece.code, isQuote c = false ∧ c ≠ '@' ∧ c ≠ '\r') ∧
    ((∀ c ∈ piece.content, c ∉ special ∧ c ≠ '@' ∧ c ≠ '\r') ∨
      piece.content ∈ earlierTokens ++ laterTokens)

def isSound (piece : Piece) : Bool :=
  isQuote piece.quote &&
    (piece.code.all (fun c => decide (isQuote c = false ∧ c ≠ '@' ∧ c ≠ '\r')) &&
    (piece.content.all (fun c => decide (c ∉ special ∧ c ≠ '@' ∧ c ≠ '\r')) ||
      decide (piece.content ∈ earlierTokens ++ laterTokens)))

theorem sound_of_isSound {piece : Piece} (checked : isSound piece = true) : Sound piece := by
  obtain ⟨quote, rest⟩ := Bool.and_eq_true_iff.mp checked
  obtain ⟨code, content⟩ := Bool.and_eq_true_iff.mp rest
  refine ⟨quote, forall_mem_of_all code, ?_⟩
  cases (Bool.or_eq_true_iff).mp content with
  | inl fixed => exact .inl (forall_mem_of_all fixed)
  | inr token => exact .inr (of_decide_eq_true token)

theorem headPieces_sound : ∀ piece ∈ headPieces, Sound piece := by
  have checked : headPieces.all isSound = true := by decide +kernel
  exact fun piece inside => sound_of_isSound (List.all_eq_true.mp checked piece inside)

theorem tailPieces_sound : ∀ piece ∈ tailPieces, Sound piece := by
  have checked : tailPieces.all isSound = true := by decide +kernel
  exact fun piece inside => sound_of_isSound (List.all_eq_true.mp checked piece inside)

theorem lastText_plain : ∀ c ∈ lastText, isQuote c = false ∧ c ≠ '@' ∧ c ≠ '\r' :=
  forall_mem_of_all (by decide +kernel)

theorem error_not_mem_codes (text : List Char) : .error ∉ codes text := by
  simp [codes]

theorem error_not_mem_tokens (pieces : List Piece) : .error ∉ pieces.flatMap Piece.tokens := by
  simp [Piece.tokens, codes]

section Reading

variable (entities : Entities) (vin : StaticVin)

theorem seen_code {piece : Piece} (sound : Sound piece) :
    seen entities vin piece.code = piece.code :=
  seen_of_plain entities vin fun c inside => (sound.2.1 c inside).2

theorem seen_content {piece : Piece} (sound : Sound piece) :
    ∀ c ∈ seen entities vin piece.content, c ∉ special := by
  cases sound.2.2 with
  | inl fixed =>
    rw [seen_of_plain entities vin fun c inside => (fixed c inside).2]
    exact fun c inside => (fixed c inside).1
  | inr token =>
    obtain ⟨id, same⟩ := seen_token entities vin token
    rw [same]
    intro c inside
    cases normalizeFrom_subset false id.text inside with
    | inl original => exact id.plain c original
    | inr feed => exact feed ▸ (by decide)

theorem plain_seen {pieces : List Piece} (sound : ∀ p ∈ pieces, Sound p) :
    ∀ p ∈ pieces.map (Piece.map (seen entities vin)), p.Plain := by
  intro _ inside
  obtain ⟨piece, member, rfl⟩ := List.mem_map.mp inside
  have here := sound piece member
  have content := seen_content entities vin here
  have code := seen_code entities vin here
  have quote := mem_special_of_isQuote here.1
  exact {
    quote := here.1
    code := fun c inside => (here.2.1 c (code ▸ inside)).1
    noQuote := fun inside => content _ inside quote
    noBackslash := fun inside => content _ inside (by decide) }

/-- **The built template, as Jinja reads it.** -/
theorem normalize_buildTemplate : normalize (buildTemplate (entities.arguments vin)) =
    render (" else ".toList ++ '\'' :: (double ['\'', '\\']
        (normalize (substitute (later (entities.arguments vin)) vin.text)) ++
      '\'' :: render lastText (tailPieces.map (Piece.map (seen entities vin)))))
      (headPieces.map (Piece.map (seen entities vin))) := by
  have separates : ∀ q first second, isQuote q = true → seen entities vin (first ++ q :: second) =
      seen entities vin first ++ q :: seen entities vin second :=
    fun q first second quote => seen_separates entities vin quote first second
  have otherwise : seen entities vin " else ".toList = " else ".toList :=
    seen_of_plain entities vin (forall_mem_of_all (by decide))
  have last : seen entities vin lastText = lastText :=
    seen_of_plain entities vin fun c inside => (lastText_plain c inside).2
  have whole : normalize (buildTemplate (entities.arguments vin)) =
      seen entities vin templateBody.toList := by
    unfold seen
    rfl
  rw [whole]
  rw [templateBody_eq, map_render separates _ fun p inside => (headPieces_sound p inside).1,
    separates _ _ _ (by decide), separates _ _ _ (by decide),
    map_render separates _ fun p inside => (tailPieces_sound p inside).1,
    otherwise, last, seen_value]

theorem tokens_seen {pieces : List Piece} (sound : ∀ p ∈ pieces, Sound p) :
    (pieces.map (Piece.map (seen entities vin))).flatMap Piece.tokens =
      pieces.flatMap fun p : Piece => codes p.code ++ [.str (seen entities vin p.content)] := by
  rw [List.flatMap_map]
  apply List.flatMap_congr
  intro piece member
  show codes (seen entities vin piece.code) ++ _ = _
  rw [seen_code entities vin (sound piece member)]
  rfl

/-- The literal is behind the head of the template. -/
theorem after_head (tokens : List Token) :
    (after [.str "vin".toList, .code ':'] (headPieces.flatMap (fun p : Piece =>
      codes p.code ++ [.str (seen entities vin p.content)]) ++
        (codes " else ".toList ++ tokens))).bind (after (codes "else".toList)) = some tokens := by
  have empty : seen entities vin [] = [] :=
    seen_of_plain entities vin (forall_mem_of_all (by decide))
  have soc : seen entities vin ['s', 'o', 'c'] = ['s', 'o', 'c'] :=
    seen_of_plain entities vin (forall_mem_of_all (by decide))
  have target : seen entities vin ['t', 'a', 'r', 'g', 'e', 't', '_', 's', 'o', 'c'] =
      ['t', 'a', 'r', 'g', 'e', 't', '_', 's', 'o', 'c'] :=
    seen_of_plain entities vin (forall_mem_of_all (by decide))
  have key : seen entities vin ['v', 'i', 'n'] = ['v', 'i', 'n'] :=
    seen_of_plain entities vin (forall_mem_of_all (by decide))
  simp [headPieces, statePieces, otherwise_eq, after, codes, empty, soc, target, key]

/-- A text without later tokens is left alone. -/
theorem substitute_later (none : ∀ token ∈ laterTokens, ¬ token <:+: vin.text)
    {made : List Substitution} (first : made <+: later (entities.arguments vin)) :
    substitute made vin.text = vin.text := by
  have clean : ∀ s ∈ made, s.Clean := fun s inside =>
    clean_later entities vin s (first.subset inside)
  apply substitute_of_absent fun s inside => (clean s inside).toMarked
  intro s inside
  have token : s.token ∈ (later (entities.arguments vin)).map Substitution.token :=
    List.mem_map_of_mem (first.subset inside)
  exact none s.token token

variable [Escapes] [LawfulEscapes]

/-- **The tokens of the built template.** -/
theorem lex_buildTemplate : ∃ first : List Char, ∃ more : List (List Char),
    first ++ more.flatten =
      (normalize (substitute (later (entities.arguments vin)) vin.text)).filter (· ≠ '\'') ∧
    lex .code (normalize (buildTemplate (entities.arguments vin))) =
      (headPieces.map (Piece.map (seen entities vin))).flatMap Piece.tokens ++
        (codes " else ".toList ++ .str first :: (more.map .str ++
          ((tailPieces.map (Piece.map (seen entities vin))).flatMap Piece.tokens ++
            codes lastText))) := by
  obtain ⟨first, more, value, tokens⟩ := lex_double reads_nil
    (normalize (substitute (later (entities.arguments vin)) vin.text))
    (render lastText (tailPieces.map (Piece.map (seen entities vin))))
  refine ⟨first, more, value, ?_⟩
  have ending : lex .code lastText = codes lastText := by
    have whole := lex_code (fun c inside => (lastText_plain c inside).1) []
    rwa [List.append_nil, lex, List.append_nil] at whole
  rw [normalize_buildTemplate, lex_render _ (plain_seen entities vin headPieces_sound),
    lex_code (forall_mem_of_all (by decide)), lex, if_pos (by decide), tokens,
    lex_render _ (plain_seen entities vin tailPieces_sound), ending]

/-- **What the VIN's literal denotes**: what the later replacements leave of the VIN, with line
feeds for its line ends and without its quotes. -/
theorem vinLiteral_buildTemplate : vinLiteral (buildTemplate (entities.arguments vin)) =
    some ((normalize (substitute (later (entities.arguments vin)) vin.text)).filter
      (· ≠ '\'')) := by
  obtain ⟨first, more, value, tokens⟩ := lex_buildTemplate entities vin
  have noError : .error ∉ lex .code (normalize (buildTemplate (entities.arguments vin))) := by
    rw [tokens]
    simp only [List.mem_append, List.mem_cons, List.mem_map, error_not_mem_codes,
      error_not_mem_tokens, or_false, reduceCtorEq, and_false, exists_false,
      not_false_eq_true]
  have ends : adjacent ((tailPieces.map (Piece.map (seen entities vin))).flatMap Piece.tokens ++
      codes lastText) = some [] := by
    rw [tokens_seen entities vin tailPieces_sound]
    rfl
  unfold vinLiteral
  simp only [if_neg noError]
  rw [tokens, tokens_seen entities vin headPieces_sound]
  have found := after_head entities vin (.str first :: (more.map .str ++
    ((tailPieces.map (Piece.map (seen entities vin))).flatMap Piece.tokens ++ codes lastText)))
  show ((after _ _).bind fun entry => (after _ entry).bind literal) = _
  rw [← Option.bind_assoc, found]
  show (adjacent _).map (first ++ ·) = _
  rw [adjacent_strs more ends, ← value]
  rfl

/-! ### Static VINs -/

/-- **A static VIN survives the template**: its literal denotes it, and no later replacement alters
the literal. -/
def Survives (entities : Entities) (vin : StaticVin) : Prop :=
  vinLiteral (buildTemplate (entities.arguments vin)) = some vin.text ∧
  ∀ made, made <+: later (entities.arguments vin) →
    substitute made (escape vin.text) = escape vin.text

/-- **A static VIN survives the template exactly where it has no quote, no carriage return and no
later token in it.** -/
theorem vin_survives_iff : Survives entities vin ↔
    '\'' ∉ vin.text ∧ '\r' ∉ vin.text ∧ ∀ token ∈ laterTokens, ¬ token <:+: vin.text := by
  unfold Survives
  rw [vinLiteral_buildTemplate, escape_eq]
  constructor
  · rintro ⟨denotes, unaltered⟩
    have value := Option.some.inj denotes
    refine ⟨?_, ?_, ?_⟩
    · rw [← value]
      simp
    · rw [← value]
      exact fun inside => return_not_mem_normalizeFrom false _ (List.mem_filter.mp inside).1
    · intro token inside found
      obtain ⟨s, member, rfl⟩ : ∃ s ∈ later (entities.arguments vin), s.token = token :=
        List.mem_map.mp inside
      have clean := clean_later entities vin
      obtain ⟨before, behind, shape⟩ := found
      have plain : ∀ c ∈ s.token, c ∉ ['\'', '\\'] := fun c among twice =>
        (clean s member).plain c among (mem_special_of_mem twice)
      have still : s.token <:+: double ['\'', '\\'] vin.text := by
        refine ⟨double ['\'', '\\'] before, double ['\'', '\\'] behind, ?_⟩
        rw [← shape, double_append, double_append, double_of_not_mem plain]
      exact substitute_ne clean member still (unaltered _ List.prefix_rfl)
  · rintro ⟨noQuote, noReturn, none⟩
    constructor
    · rw [substitute_later entities vin none List.prefix_rfl, normalize_of_not_mem noReturn,
        List.filter_eq_self.mpr]
      intro c inside
      exact decide_eq_true fun same => noQuote (same ▸ inside)
    · intro made first
      rw [substitute_double fun s inside => clean_later entities vin s (first.subset inside),
        substitute_later entities vin none first]

end Reading

/-! ### A concrete Jinja, for texts whose only escapes are doubled backslashes -/

def decodeBackslash : List Char → Option (List Char)
  | [] => some []
  | '\\' :: '\\' :: rest => (decodeBackslash rest).map ('\\' :: ·)
  | c :: rest => if c = '\\' then none else (decodeBackslash rest).map (c :: ·)

@[reducible] def backslashEscapes : Escapes := ⟨decodeBackslash⟩

theorem lawful_backslashEscapes : @LawfulEscapes backslashEscapes :=
  letI := backslashEscapes
  { decode_nil := rfl
    decode_cons := fun c rest plain => by
      show decodeBackslash (c :: rest) = _
      rw [decodeBackslash, if_neg plain]
      · rfl
      · exact fun _ same _ => plain same
    decode_backslash := fun _ => rfl }

/-- A state of charge, and no entity for anything else. -/
def socOnly : Entities :=
  ⟨⟨"sensor.soc".toList, forall_mem_of_all (by decide), by decide⟩, .none, .none, .none, .none,
    .none, .none, .none, .none, .none, .none⟩

def plainVin : StaticVin := ⟨"4JGDM0EB0PA123456".toList, by decide⟩

/-- A VIN with a quote. -/
def quotedVin : StaticVin := ⟨"4JG'DM".toList, by decide⟩

theorem survives_plainVin : letI := backslashEscapes
    Survives socOnly plainVin :=
  (@vin_survives_iff socOnly plainVin backslashEscapes lawful_backslashEscapes).mpr
    (by decide +kernel)

/-- **The VIN `4JG'DM`** arrives as `4JGDM`. -/
theorem quotedVin_lost : letI := backslashEscapes
    vinLiteral (buildTemplate (socOnly.arguments quotedVin)) = some "4JGDM".toList ∧
      ¬ Survives socOnly quotedVin := by
  have denotes := @vinLiteral_buildTemplate socOnly quotedVin backslashEscapes
    lawful_backslashEscapes
  have arrives : (normalize
      (substitute (later (socOnly.arguments quotedVin)) quotedVin.text)).filter (· ≠ '\'') =
      "4JGDM".toList := by
    decide +kernel
  rw [arrives] at denotes
  refine ⟨denotes, ?_⟩
  rintro ⟨survives, -⟩
  rw [denotes] at survives
  exact absurd survives (by decide +kernel)

end DbusEv.Template
