import EntityStore.Options.Override
import EntityStore.Proofs.Migration.History
import EntityStore.Proofs.Result

/-!
# Settings in any order

Settings are taken one after another, and each of them is about one option or about none. Where no two
are about the same option, what comes out is told option by option: the value that the setting about it
states, or the value from before if there is no such setting. This does not mention the order of the
settings, so it decides in the same way for every order whether all of them are taken and what they
come to.
-/

namespace EntityStore.Options

/-! ## What a setting is about -/

/-- The text with its letters in lower case. -/
def folded (text : String) : String := String.ofList (text.toList.map Char.toLower)

theorem folded_append (first second : String) :
    folded (first ++ second) = folded first ++ folded second := by
  simp [folded]

/-- What a setting can be about. -/
inductive Topic where
  | dialect
  | synchronize
  | migrationsTable
  | migrationsRun
  | strictIsolation
  | logging
  deriving DecidableEq

namespace Topic

/-- The name, as settings have it behind `settingHead`. -/
def name : Topic → String
  | dialect => "dialect"
  | synchronize => "synchronize"
  | migrationsTable => "migrations_table"
  | migrationsRun => "migrations_run"
  | strictIsolation => "strict_isolation"
  | logging => "logging"

theorem name_injective : Function.Injective name := by
  intro t t' same
  cases t <;> cases t' <;> revert same <;> decide

def Value : Topic → Type
  | dialect => Dialect
  | migrationsTable => String
  | synchronize | migrationsRun | strictIsolation | logging => Bool

end Topic

def get (o : Options) : (t : Topic) → t.Value
  | .dialect => o.dialect
  | .synchronize => o.synchronize
  | .migrationsTable => o.migrationsTable
  | .migrationsRun => o.migrationsRun
  | .strictIsolation => o.strictIsolation
  | .logging => o.logging

def set (o : Options) : (t : Topic) → t.Value → Options
  | .dialect, value => { o with dialect := value }
  | .synchronize, value => { o with synchronize := value }
  | .migrationsTable, value => { o with migrationsTable := value }
  | .migrationsRun, value => { o with migrationsRun := value }
  | .strictIsolation, value => { o with strictIsolation := value }
  | .logging, value => { o with logging := value }

variable {o after : Options}

theorem get_set (t : Topic) (value : t.Value) : (o.set t value).get t = value := by
  cases t <;> rfl

theorem get_set_other {t t' : Topic} (other : t' ≠ t) (value : t.Value) :
    (o.set t value).get t' = o.get t' := by
  cases t <;> cases t' <;> try exact absurd rfl other
  all_goals rfl

/-- Options are the same if each of them has the same value. -/
theorem ext_get {o' : Options} (same : ∀ t, o.get t = o'.get t) : o = o' := by
  cases o
  cases o'
  simp only [mk.injEq]
  exact ⟨same .dialect, same .synchronize, same .migrationsTable, same .migrationsRun,
    same .strictIsolation, same .logging⟩

/-- The name of a `setting` about `t` is that of the option, in any case, behind `settingHead`. -/
def Concerns (setting : String) (t : Topic) : Prop :=
  ∃ rest, setting = settingHead ++ rest ∧ folded rest = t.name

/-- The words for a truth value. -/
def flagWords : Bool → List String
  | true => ["1", "true", "yes", "on"]
  | false => ["0", "false", "no", "off"]

/-- What a text states, as a setting about an option. -/
def States : (t : Topic) → String → t.Value → Prop
  | .dialect, text, value => readDialect text = .ok value
  | .migrationsTable, text, value => text = value
  | .synchronize, text, value | .migrationsRun, text, value | .strictIsolation, text, value
  | .logging, text, value => folded text ∈ flagWords value

theorem Concerns.unique {setting : String} {t t' : Topic} (first : Concerns setting t)
    (second : Concerns setting t') : t = t' := by
  obtain ⟨rest, rfl, named⟩ := first
  obtain ⟨rest', same, named'⟩ := second
  have rests : rest = rest' := by simpa using same
  subst rests
  exact Topic.name_injective (named.symm.trans named')

/-- Settings about one option have one name, but for case. -/
theorem Concerns.folded_eq {setting setting' : String} {t : Topic} (first : Concerns setting t)
    (second : Concerns setting' t) : folded setting = folded setting' := by
  obtain ⟨rest, rfl, named⟩ := first
  obtain ⟨rest', rfl, named'⟩ := second
  rw [folded_append, folded_append, named, named']

/-! ## One setting -/

theorem optionName?_eq_some_iff {setting rest : String} :
    optionName? setting = some rest ↔ setting = settingHead ++ rest := by
  unfold optionName?
  constructor
  · intro found
    split at found
    · rename_i begins
      obtain ⟨behind, whole⟩ := List.isPrefixOf_iff_prefix.1 begins
      rw [← String.length_toList, ← whole, List.drop_left] at found
      rw [← String.toList_inj, ← whole, ← Option.some.inj found]
      simp
    · cases found
  · rintro rfl
    have begins : settingHead.toList.isPrefixOf (settingHead ++ rest).toList = true := by
      rw [List.isPrefixOf_iff_prefix, String.toList_append]
      exact List.prefix_append _ _
    rw [if_pos begins, String.toList_append, ← String.length_toList, List.drop_left,
      String.ofList_toList]

theorem flagWords_apart : ∀ word ∈ flagWords true, word ∉ flagWords false := by decide

theorem readFlag_eq_ok_iff {name text : String} {value : Bool} :
    readFlag name text = .ok value ↔ folded text ∈ flagWords value := by
  have read : readFlag name text =
      if folded text ∈ flagWords true then .ok true
      else if folded text ∈ flagWords false then .ok false
      else .error (.config (settingHead ++ name ++ ": expected a boolean, got '" ++ text ++ "'")) := by
    simp only [← List.contains_iff_mem]
    rfl
  rw [read]
  by_cases positive : folded text ∈ flagWords true
  · have notNegative := flagWords_apart _ positive
    cases value <;> simp [positive, notNegative]
  · by_cases negative : folded text ∈ flagWords false
    · cases value <;> simp [positive, negative]
    · cases value <;> simp [positive, negative]

/-- An option is set if its value can be read. -/
theorem read_and_set {α : Type} {x : Except Error α} {stated : α → Prop} {put : α → Options}
    {next : Options} (read : ∀ value, x = .ok value ↔ stated value) :
    (do return put (← x)) = Except.ok next ↔ ∃ value, stated value ∧ next = put value := by
  rw [Except.bind_eq_ok]
  refine exists_congr fun value => and_congr (read value) ?_
  exact ⟨fun same => (Except.ok.inj same).symm, fun same => congrArg Except.ok same.symm⟩

theorem override_concerned {setting text : String} {t : Topic} (concerns : Concerns setting t)
    {next : Options} :
    o.override setting text = .ok next ↔ ∃ value, States t text value ∧ next = o.set t value := by
  obtain ⟨rest, begins, named⟩ := concerns
  unfold override
  rw [optionName?_eq_some_iff.2 begins]
  dsimp only
  rw [show String.ofList (rest.toList.map Char.toLower) = t.name from named]
  cases t with
  | dialect => exact read_and_set fun _ => Iff.rfl
  | migrationsTable =>
    constructor
    · intro taken
      exact ⟨text, rfl, (Except.ok.inj taken).symm⟩
    · rintro ⟨value, rfl, rfl⟩
      rfl
  | synchronize => exact read_and_set fun _ => readFlag_eq_ok_iff
  | migrationsRun => exact read_and_set fun _ => readFlag_eq_ok_iff
  | strictIsolation => exact read_and_set fun _ => readFlag_eq_ok_iff
  | logging => exact read_and_set fun _ => readFlag_eq_ok_iff

theorem override_unconcerned {setting : String} (unknown : ∀ t, ¬ Concerns setting t)
    (text : String) : o.override setting text = .ok o := by
  unfold override
  split
  · rfl
  · rename_i rest begins
    have other : ∀ t : Topic, folded rest ≠ t.name := fun t named =>
      unknown t ⟨rest, optionName?_eq_some_iff.1 begins, named⟩
    split
    next named => exact absurd named (other .dialect)
    next named => exact absurd named (other .synchronize)
    next named => exact absurd named (other .migrationsTable)
    next named => exact absurd named (other .migrationsRun)
    next named => exact absurd named (other .strictIsolation)
    next named => exact absurd named (other .logging)
    next => rfl

/-! ## All settings -/

/-- The options `after` come of `o` by `settings`: each of them has the value that the setting about
it states, or the one that it has in `o`. -/
structure Follows (o : Options) (settings : List (String × String)) (after : Options) : Prop where
  stated : ∀ setting ∈ settings, ∀ t, Concerns setting.1 t → States t setting.2 (after.get t)
  unstated : ∀ t, (∀ setting ∈ settings, ¬ Concerns setting.1 t) → after.get t = o.get t

theorem Follows.perm {settings settings' : List (String × String)}
    (follows : Follows o settings after) (perm : settings'.Perm settings) :
    Follows o settings' after where
  stated setting given := follows.stated setting (perm.mem_iff.1 given)
  unstated t none := follows.unstated t fun setting given => none setting (perm.mem_iff.2 given)

theorem follows_nil : Follows o [] after ↔ after = o := by
  constructor
  · intro follows
    exact ext_get fun t => follows.unstated t (by simp)
  · rintro rfl
    exact ⟨by simp, fun _ _ => rfl⟩

/-- Where no later setting is about the same option, the first one can be taken on its own. -/
theorem follows_cons {setting : String × String} {rest : List (String × String)}
    (once : ∀ t, Concerns setting.1 t → ∀ later ∈ rest, ¬ Concerns later.1 t) :
    Follows o (setting :: rest) after ↔
      ∃ next, o.override setting.1 setting.2 = .ok next ∧ Follows next rest after := by
  by_cases known : ∃ t, Concerns setting.1 t
  · obtain ⟨t, concerns⟩ := known
    simp only [override_concerned concerns]
    constructor
    · intro follows
      refine ⟨o.set t (after.get t),
        ⟨_, follows.stated setting List.mem_cons_self t concerns, rfl⟩, ?_, ?_⟩
      · exact fun later given => follows.stated later (List.mem_cons_of_mem _ given)
      · intro t' unstated
        by_cases own : t' = t
        · subst own
          exact (get_set _ _).symm
        · rw [get_set_other own]
          refine follows.unstated t' (List.forall_mem_cons.2 ⟨fun other => ?_, unstated⟩)
          exact own (other.unique concerns)
    · rintro ⟨_, ⟨value, states, rfl⟩, follows⟩
      have taken : after.get t = value := by
        rw [follows.unstated t (once t concerns), get_set]
      refine ⟨List.forall_mem_cons.2 ⟨fun t' other => ?_, follows.stated⟩, ?_⟩
      · obtain rfl := other.unique concerns
        rwa [taken]
      · intro t' unstated
        obtain ⟨other, unstated⟩ := List.forall_mem_cons.1 unstated
        have apart : t' ≠ t := by
          rintro rfl
          exact other concerns
        rw [follows.unstated t' unstated, get_set_other apart]
  · have unknown : ∀ t, ¬ Concerns setting.1 t := fun t concerns => known ⟨t, concerns⟩
    rw [override_unconcerned unknown]
    constructor
    · intro follows
      refine ⟨o, rfl, fun later given => follows.stated later (List.mem_cons_of_mem _ given), ?_⟩
      exact fun t unstated => follows.unstated t (List.forall_mem_cons.2 ⟨unknown t, unstated⟩)
    · rintro ⟨_, same, follows⟩
      cases same
      refine ⟨List.forall_mem_cons.2 ⟨fun t concerns => absurd concerns (unknown t),
        follows.stated⟩, ?_⟩
      exact fun t unstated => follows.unstated t (List.forall_mem_cons.1 unstated).2

theorem once_of_distinct {setting : String × String} {rest : List (String × String)}
    (distinct : ((setting :: rest).map fun setting => folded setting.1).Nodup) :
    ∀ t, Concerns setting.1 t → ∀ later ∈ rest, ¬ Concerns later.1 t := by
  intro t concerns later given again
  exact (List.nodup_cons.1 distinct).1 (List.mem_map.2 ⟨later, given, again.folded_eq concerns⟩)

/-- Settings of which no two are about one option can be taken if each of them can be. -/
theorem exists_follows {settings : List (String × String)}
    (distinct : (settings.map fun setting => folded setting.1).Nodup)
    (readable : ∀ setting ∈ settings, ∀ t, Concerns setting.1 t → ∃ value, States t setting.2 value) :
    ∃ after, Follows o settings after := by
  induction settings generalizing o with
  | nil => exact ⟨o, follows_nil.2 rfl⟩
  | cons setting rest ih =>
    have taken : ∃ next, o.override setting.1 setting.2 = .ok next := by
      by_cases known : ∃ t, Concerns setting.1 t
      · obtain ⟨t, concerns⟩ := known
        obtain ⟨value, states⟩ := readable setting List.mem_cons_self t concerns
        exact ⟨o.set t value, (override_concerned concerns).2 ⟨value, states, rfl⟩⟩
      · exact ⟨o, override_unconcerned (fun t concerns => known ⟨t, concerns⟩) setting.2⟩
    obtain ⟨next, taken⟩ := taken
    obtain ⟨after, follows⟩ := ih (o := next) (List.nodup_cons.1 distinct).2
      fun later given => readable later (List.mem_cons_of_mem _ given)
    exact ⟨after, (follows_cons (once_of_distinct distinct)).2 ⟨next, taken, follows⟩⟩

theorem overrideAll_cons_eq_ok {setting : String × String} {rest : List (String × String)} :
    o.overrideAll (setting :: rest) = (after, .ok ()) ↔
      ∃ next, o.override setting.1 setting.2 = .ok next ∧ next.overrideAll rest = (after, .ok ()) := by
  rw [overrideAll]
  cases o.override setting.1 setting.2 with
  | ok next => simp
  | error e => simp

theorem validate_eq_ok_iff :
    o.validate = .ok () ↔ Identifier.isValid o.migrationsTable false = true := by
  unfold validate
  split <;> simp [*]

/-- Settings of which no two are about one option are all taken if and only if some options come of
them whose `migrationsTable` is an identifier. -/
theorem overrideAll_eq_ok_iff {settings : List (String × String)}
    (distinct : (settings.map fun setting => folded setting.1).Nodup) :
    o.overrideAll settings = (after, .ok ()) ↔
      Follows o settings after ∧ Identifier.isValid after.migrationsTable false = true := by
  induction settings generalizing o with
  | nil =>
    rw [overrideAll, follows_nil, Prod.mk.injEq, validate_eq_ok_iff]
    constructor
    · rintro ⟨rfl, valid⟩
      exact ⟨rfl, valid⟩
    · rintro ⟨rfl, valid⟩
      exact ⟨rfl, valid⟩
  | cons setting rest ih =>
    rw [overrideAll_cons_eq_ok, follows_cons (once_of_distinct distinct)]
    simp only [ih (List.nodup_cons.1 distinct).2]
    constructor
    · rintro ⟨next, taken, follows, valid⟩
      exact ⟨⟨next, taken, follows⟩, valid⟩
    · rintro ⟨⟨next, taken, follows⟩, valid⟩
      exact ⟨next, taken, follows, valid⟩

/-- A `setting` about no option makes no difference, wherever it stands. -/
theorem overrideAll_unconcerned {setting : String} (unknown : ∀ t, ¬ Concerns setting t)
    (text : String) (front back : List (String × String)) :
    o.overrideAll (front ++ (setting, text) :: back) = o.overrideAll (front ++ back) := by
  induction front generalizing o with
  | nil => rw [List.nil_append, overrideAll, override_unconcerned unknown, List.nil_append]
  | cons first front ih =>
    rw [List.cons_append, List.cons_append, overrideAll, overrideAll]
    cases o.override first.1 first.2 with
    | ok next => exact ih
    | error e => rfl

theorem overrideAll_perm {settings settings' : List (String × String)}
    (distinct : (settings.map fun setting => folded setting.1).Nodup)
    (perm : settings'.Perm settings) :
    o.overrideAll settings' = (after, .ok ()) ↔ o.overrideAll settings = (after, .ok ()) := by
  have distinct' : (settings'.map fun setting => folded setting.1).Nodup :=
    (perm.map _).nodup_iff.2 distinct
  rw [overrideAll_eq_ok_iff distinct, overrideAll_eq_ok_iff distinct']
  exact and_congr_left' ⟨fun follows => follows.perm perm.symm, fun follows => follows.perm perm⟩

/-- Whether settings of which no two have the same name, but for case, are taken, and what comes of
them, does not depend on their order. They are taken if and only if each of them that is about an
option states a value for it and the table for migrations can be named in a statement. -/
theorem overrides_unordered (o : Options) {settings : List (String × String)}
    (distinct : (settings.map fun setting => folded setting.1).Nodup) :
    (∀ settings', settings'.Perm settings →
      (∃ after, o.overrideAll settings = (after, .ok ()) ∧
        o.overrideAll settings' = (after, .ok ())) ∨
      (∃ e e', (o.overrideAll settings).2 = .error e ∧ (o.overrideAll settings').2 = .error e')) ∧
    (∀ after, o.overrideAll settings = (after, .ok ()) ↔
      Follows o settings after ∧ Identifier.isValid after.migrationsTable false = true) ∧
    ((∃ after, Follows o settings after) ↔
      ∀ setting ∈ settings, ∀ t, Concerns setting.1 t → ∃ value, States t setting.2 value) ∧
    (∀ after, o.overrideAll settings = (after, .ok ()) →
      ∀ {σ : Type} (c : Connection σ), ∃ h, History.make c after.migrationsTable = .ok h ∧
        h.table.name = after.migrationsTable) ∧
    ∀ setting, (∀ t, ¬ Concerns setting t) → ∀ text front back,
      o.overrideAll (front ++ (setting, text) :: back) = o.overrideAll (front ++ back) := by
  refine ⟨?_, fun after => overrideAll_eq_ok_iff distinct, ?_, ?_, ?_⟩
  · intro settings' perm
    cases result : o.overrideAll settings with
    | mk after answer =>
      cases answer with
      | ok taken => exact .inl ⟨after, rfl, (overrideAll_perm distinct perm).2 result⟩
      | error e =>
        cases result' : o.overrideAll settings' with
        | mk after' answer' =>
          cases answer' with
          | ok taken =>
            rw [(overrideAll_perm distinct perm).1 result'] at result
            cases result
          | error e' => exact .inr ⟨e, e', rfl, rfl⟩
  · refine ⟨?_, exists_follows distinct⟩
    rintro ⟨after, follows⟩ setting given t concerns
    exact ⟨_, follows.stated setting given t concerns⟩
  · intro after taken σ c
    exact ⟨_, History.make_of_isValid c ((overrideAll_eq_ok_iff distinct).1 taken).2, rfl⟩
  · intro setting unknown text front back
    exact overrideAll_unconcerned unknown text front back

/-- Settings of a deployment, between them one that is none. -/
def deployed : List (String × String) :=
  [("R2E_ORM_DIALECT", "mysql"), ("HOME", "/root"), ("R2E_ORM_strict_isolation", "TRUE"),
   ("R2E_ORM_MIGRATIONS_TABLE", "app.history")]

theorem deployed_unordered :
    (deployed.map fun setting => folded setting.1).Nodup ∧ deployed.reverse.Perm deployed ∧
    ∃ after, ({} : Options).overrideAll deployed = (after, .ok ()) ∧
      ({} : Options).overrideAll deployed.reverse = (after, .ok ()) ∧
      after = { dialect := .mysql, strictIsolation := true, migrationsTable := "app.history" } := by
  have distinct : (deployed.map fun setting => folded setting.1).Nodup := by decide
  have perm : deployed.reverse.Perm deployed := List.reverse_perm deployed
  have taken : (({} : Options).overrideAll deployed).2.isOk = true := by decide +kernel
  have final : (({} : Options).overrideAll deployed).1 =
      { dialect := .mysql, strictIsolation := true, migrationsTable := "app.history" } := by
    decide +kernel
  refine ⟨distinct, perm, ?_⟩
  rcases (overrides_unordered {} distinct).1 deployed.reverse perm with
    ⟨after, first, second⟩ | ⟨e, _, failed, _⟩
  · rw [first] at final
    exact ⟨after, first, second, final⟩
  · rw [failed] at taken
    cases taken

end EntityStore.Options
