import AccessGateway.Json.Decode
import Mathlib.Data.List.Forall2
import Mathlib.Data.List.Nodup

/-!
# Records read from objects

Which objects are read as a record: every name is a text, a member that is no field is well
formed, and each field stands there once with a value it accepts, or not at all if it may be
missing.  A field then has the value that stands under its name.
-/

namespace AccessGateway.Json

/-- The values under a name, in the order of the text. -/
def Draft.named (name : String) (members : List (Option String × Draft)) : List Draft :=
  (members.filter (·.1 == some name)).map Prod.snd

namespace Draft

theorem named_cons_self (name : String) (value : Draft)
    (members : List (Option String × Draft)) :
    named name ((some name, value) :: members) = value :: named name members := by
  simp [named]

theorem named_cons_of_ne {name : String} {member : Option String × Draft}
    (h : member.1 ≠ some name) (members : List (Option String × Draft)) :
    named name (member :: members) = named name members := by
  simp [named, h]

end Draft

/-- The values under the name of a field are what the field may have. -/
def Field.Takes (field : Field) (values : List Draft) : Prop :=
  (values = [] ∧ field.presence ≠ .required) ∨
    ∃ value, values = [value] ∧ field.accepts value = .ok ()

namespace Record

/-- The members of an object go on with a record of which some fields have been read. -/
structure Fits (fields : List Field) (seen : Record) (members : List (Option String × Draft)) :
    Prop where
  named : ∀ member ∈ members, member.1 ≠ none
  passed : ∀ name value, (some name, value) ∈ members → (∀ field ∈ fields, field.name ≠ name) →
    value.isWellFormed = true
  takes : ∀ field ∈ fields,
    if seen.any (·.1 == field.name) then Draft.named field.name members = []
    else field.Takes (Draft.named field.name members)

/-- The members that are fields. -/
def known (fields : List Field) : List (Option String × Draft) → Record
  | [] => []
  | (none, _) :: members => known fields members
  | (some name, value) :: members =>
    if fields.any (·.name == name) then (name, value) :: known fields members
    else known fields members

variable {fields : List Field} {seen : Record} {members : List (Option String × Draft)}

theorem fits_nil : Fits fields seen [] ↔
    ∀ field ∈ fields, field.presence ≠ .required ∨ seen.any (·.1 == field.name) = true := by
  constructor
  · intro h field hfield
    have htakes := h.takes field hfield
    by_cases hseen : seen.any (·.1 == field.name) = true
    · exact .inr hseen
    · rw [if_neg hseen] at htakes
      rcases htakes with ⟨-, hpresence⟩ | ⟨value, hvalue, -⟩
      · exact .inl hpresence
      · cases hvalue
  · intro h
    refine ⟨by simp, by simp, ?_⟩
    intro field hfield
    split
    · rfl
    next hseen => exact .inl ⟨rfl, (h field hfield).resolve_right hseen⟩

theorem fits_cons_of_unknown {name : String} {value : Draft}
    (h : ∀ field ∈ fields, field.name ≠ name) :
    Fits fields seen ((some name, value) :: members) ↔
      value.isWellFormed = true ∧ Fits fields seen members := by
  have hnamed : ∀ field ∈ fields, Draft.named field.name ((some name, value) :: members) =
      Draft.named field.name members := by
    intro field hfield
    apply Draft.named_cons_of_ne
    simpa using (h field hfield).symm
  constructor
  · intro hfits
    refine ⟨hfits.passed name value List.mem_cons_self h, ?_, ?_, ?_⟩
    · exact fun member hmember => hfits.named member (List.mem_cons_of_mem _ hmember)
    · exact fun other v hmember => hfits.passed other v (List.mem_cons_of_mem _ hmember)
    · intro field hfield
      rw [← hnamed field hfield]
      exact hfits.takes field hfield
  · rintro ⟨hvalue, hfits⟩
    refine ⟨?_, ?_, ?_⟩
    · exact List.forall_mem_cons.mpr ⟨by simp, hfits.named⟩
    · intro other v hmember hother
      rcases List.mem_cons.mp hmember with heq | hmember
      · cases heq
        exact hvalue
      · exact hfits.passed other v hmember hother
    · intro field hfield
      rw [hnamed field hfield]
      exact hfits.takes field hfield

/-- The fields have different names. -/
abbrev Distinct (fields : List Field) : Prop := (fields.map Field.name).Nodup

theorem takes_cons {field : Field} {value : Draft} {rest : List Draft} :
    field.Takes (value :: rest) ↔ rest = [] ∧ field.accepts value = .ok () := by
  simp [Field.Takes]

theorem fits_cons_of_known (hdistinct : Distinct fields) {field : Field}
    (hfield : field ∈ fields) {value : Draft} :
    Fits fields seen ((some field.name, value) :: members) ↔
      seen.any (·.1 == field.name) = false ∧ field.accepts value = .ok () ∧
        Fits fields (seen ++ [(field.name, value)]) members := by
  have hself := Draft.named_cons_self field.name value members
  have hother : ∀ {other : Field}, other.name ≠ field.name →
      Draft.named other.name ((some field.name, value) :: members) =
        Draft.named other.name members := by
    intro other hne
    apply Draft.named_cons_of_ne
    simpa using hne.symm
  have hapart : ∀ {other : Field}, other.name ≠ field.name →
      (field.name == other.name) = false := fun hne => beq_eq_false_iff_ne.mpr hne.symm
  have hseen : ∀ name, (seen ++ [(field.name, value)]).any (·.1 == name) =
      (seen.any (·.1 == name) || field.name == name) := by simp
  constructor
  · intro hfits
    have htakes := hfits.takes field hfield
    rw [hself] at htakes
    obtain ⟨hnew, hlast, haccepts⟩ : seen.any (·.1 == field.name) = false ∧
        Draft.named field.name members = [] ∧ field.accepts value = .ok () := by
      split at htakes
      · cases htakes
      next hnew => exact ⟨eq_false_of_ne_true hnew, takes_cons.mp htakes⟩
    refine ⟨hnew, haccepts, ?_, ?_, ?_⟩
    · exact fun member hmember => hfits.named member (List.mem_cons_of_mem _ hmember)
    · exact fun name v hmember => hfits.passed name v (List.mem_cons_of_mem _ hmember)
    · intro other hmember
      rw [hseen]
      by_cases hname : other.name = field.name
      · simpa [hname] using hlast
      · have hkept := hfits.takes other hmember
        rw [hother hname] at hkept
        rwa [hapart hname, Bool.or_false]
  · rintro ⟨hnew, haccepts, hfits⟩
    refine ⟨List.forall_mem_cons.mpr ⟨by simp, hfits.named⟩, ?_, ?_⟩
    · intro name v hmember hunknown
      rcases List.mem_cons.mp hmember with heq | hmember
      · cases heq
        exact absurd rfl (hunknown field hfield)
      · exact hfits.passed name v hmember hunknown
    · intro other hmember
      have hkept := hfits.takes other hmember
      rw [hseen] at hkept
      by_cases hname : other.name = field.name
      -- Of two fields of one name the reader would only test the first.
      · cases List.inj_on_of_nodup_map hdistinct hmember hfield hname
        rw [hself, if_neg (by simp [hnew]), takes_cons]
        exact ⟨by simpa using hkept, haccepts⟩
      · rw [hapart hname, Bool.or_false] at hkept
        rwa [hother hname]

theorem not_fits_of_unnamed {value : Draft} : ¬ Fits fields seen ((none, value) :: members) := by
  intro hfits
  exact hfits.named _ List.mem_cons_self rfl

/-- An object is read as a record exactly if its members fit, and the record is made of them. -/
theorem ofMembers_eq_ok_iff (hdistinct : Distinct fields) {record : Record} :
    ofMembers fields seen members = .ok record ↔
      Fits fields seen members ∧ record = seen ++ known fields members := by
  -- What has been read grows along the members, so the statement is about every start.
  induction members generalizing seen with
  | nil =>
      have hall : (fields.all fun field =>
            field.presence ≠ .required || seen.any (·.1 == field.name)) = true ↔
          ∀ field ∈ fields,
            field.presence ≠ .required ∨ seen.any (·.1 == field.name) = true := by
        simp only [List.all_eq_true, Bool.or_eq_true, decide_eq_true_eq]
      rw [ofMembers, fits_nil, known, List.append_nil, ← hall]
      split
      next hcomplete => simp only [Except.ok.injEq, hcomplete, true_and, eq_comm]
      next hmissing => simp only [hmissing, reduceCtorEq, false_and]
  | cons member members ih =>
      obtain ⟨name, value⟩ := member
      cases name with
      | none => simp [ofMembers, not_fits_of_unnamed]
      | some name =>
          rw [ofMembers]
          cases hfind : fields.find? (·.name == name) with
          | none =>
              have hunknown : ∀ field ∈ fields, field.name ≠ name := by
                simpa using hfind
              have hany : fields.any (·.name == name) = false := by
                simpa [List.any_eq_false] using hunknown
              rw [fits_cons_of_unknown hunknown, known, hany]
              cases hvalue : value.isWellFormed <;> simp [ih]
          | some field =>
              have hfield := List.mem_of_find?_eq_some hfind
              have hname : field.name = name := by simpa using List.find?_some hfind
              subst hname
              have hany : fields.any (·.name == field.name) = true :=
                List.any_eq_true.mpr ⟨field, hfield, by simp⟩
              rw [fits_cons_of_known hdistinct hfield, known, if_pos hany]
              cases hseen : seen.any (·.1 == field.name) with
              | true => simp
              | false =>
                  cases haccepts : field.accepts value with
                  | error e => simp [haccepts]
                  | ok accepted => simp [haccepts, ih]

/-- A field has the first value under its name. -/
theorem lookup_known {field : Field} (hfield : field ∈ fields)
    (members : List (Option String × Draft)) :
    (known fields members).lookup field.name = (Draft.named field.name members).head? := by
  induction members with
  | nil => rfl
  | cons member members ih =>
      obtain ⟨name, value⟩ := member
      cases name with
      | none => rw [known, ih, Draft.named_cons_of_ne (by simp)]
      | some name =>
          rw [known]
          by_cases hname : name = field.name
          · subst hname
            rw [if_pos (List.any_eq_true.mpr ⟨field, hfield, by simp⟩), Draft.named_cons_self]
            simp
          · rw [Draft.named_cons_of_ne (by simpa using hname), ← ih]
            have hapart : (field.name == name) = false := beq_eq_false_iff_ne.mpr (Ne.symm hname)
            split
            · rw [List.lookup_cons, hapart]
            · rfl

end Record

theorem Shape.decoder_object_eq_ok_iff {α : Type} {shape : Shape α}
    (hdistinct : Record.Distinct shape.fields) {members : List (Option String × Draft)} {a : α} :
    shape.decoder (.object members) = .ok a ↔
      Record.Fits shape.fields [] members ∧
        shape.read (Record.known shape.fields members) = .ok a := by
  have hmembers : ∀ record, Record.ofMembers shape.fields [] members = .ok record ↔
      Record.Fits shape.fields [] members ∧ record = Record.known shape.fields members :=
    fun _ => Record.ofMembers_eq_ok_iff hdistinct
  unfold Shape.decoder Record.decode
  dsimp only
  cases hread : Record.ofMembers shape.fields [] members with
  | error e =>
      have hnot : ¬ Record.Fits shape.fields [] members := by
        intro hfits
        have hok := (hmembers _).mpr ⟨hfits, rfl⟩
        rw [hread] at hok
        cases hok
      simp [hnot]
  | ok record =>
      obtain ⟨hfits, rfl⟩ := (hmembers record).mp hread
      simp [hfits]

namespace Record

theorem ofItems_cons_eq_ok_iff {field : Field} {fields : List Field} {value : Draft}
    {rest : List Draft} {record : Record} :
    ofItems (field :: fields) (value :: rest) = .ok record ↔
      field.accepts value = .ok () ∧
        ∃ more, ofItems fields rest = .ok more ∧ record = (field.name, value) :: more := by
  rw [ofItems]
  cases haccepts : field.accepts value with
  | error e => simp
  | ok accepted =>
      cases hrest : ofItems fields rest <;> simp [Except.map, eq_comm]

/-- The last field of a record may be left out of an array, and nothing stands after it. -/
theorem ofItems_defaulted_eq_ok_iff {field : Field} (hpresence : field.presence = .defaulted)
    {values : List Draft} {record : Record} :
    ofItems [field] values = .ok record ↔
      field.Takes values ∧ record = values.map fun value => (field.name, value) := by
  match values with
  | [] => simp [ofItems, Field.Takes, hpresence, eq_comm]
  | [value] =>
      rw [ofItems_cons_eq_ok_iff, takes_cons, ofItems]
      simp
  | value :: other :: rest =>
      rw [ofItems_cons_eq_ok_iff, takes_cons, ofItems]
      simp

end Record

theorem Shape.decoder_array_eq_ok_iff {α : Type} {shape : Shape α} {items : List Draft} {a : α} :
    shape.decoder (.array items) = .ok a ↔
      ∃ record, Record.ofItems shape.fields items = .ok record ∧ shape.read record = .ok a := by
  unfold Shape.decoder Record.decode
  dsimp only
  cases Record.ofItems shape.fields items <;> simp

namespace Shape

variable {α β : Type} {record : Record}

theorem read_seq (f : Shape (α → β)) (a : Shape α) :
    (f <*> a).read record = f.read record <*> a.read record := by
  change (f.read record >>= fun g => a.read record >>= fun x => pure (g x)) = _
  simp only [seq_eq_bind_map, map_eq_pure_bind]

theorem read_map (f : α → β) (a : Shape α) :
    (f <$> a).read record = f <$> a.read record := by
  change (pure f >>= fun g => a.read record >>= fun x => pure (g x)) = _
  simp only [map_eq_pure_bind, pure_bind]

end Shape

namespace Field

variable {α : Type} {name : String} {decoder : Decoder α} {values : List Draft} {record : Record}

theorem accepts_of_iff {presence : Presence} {value : Draft} :
    (Field.of name presence decoder).accepts value = .ok () ↔ ∃ a, decoder value = .ok a := by
  change (decoder value).map (fun _ => ()) = .ok () ↔ _
  cases decoder value <;> simp [Except.map]

theorem required_reads (hlookup : record.lookup name = values.head?) (a : α) :
    ((Field.of name .required decoder).Takes values ∧ record.get name decoder = .ok a) ↔
      ∃ value, values = [value] ∧ decoder value = .ok a := by
  rw [Record.get, hlookup]
  constructor
  · rintro ⟨⟨-, habsurd⟩ | ⟨value, rfl, -⟩, hread⟩
    · exact absurd rfl habsurd
    · exact ⟨value, rfl, hread⟩
  · rintro ⟨value, rfl, hread⟩
    exact ⟨.inr ⟨value, rfl, accepts_of_iff.mpr ⟨a, hread⟩⟩, hread⟩

theorem defaulted_reads (hlookup : record.lookup name = values.head?) (a default : α) :
    ((Field.of name .defaulted decoder).Takes values ∧
        record.getD name decoder default = .ok a) ↔
      (values = [] ∧ a = default) ∨ ∃ value, values = [value] ∧ decoder value = .ok a := by
  rw [Record.getD, hlookup]
  constructor
  · rintro ⟨⟨rfl, -⟩ | ⟨value, rfl, -⟩, hread⟩
    · cases hread
      exact .inl ⟨rfl, rfl⟩
    · exact .inr ⟨value, rfl, hread⟩
  · rintro (⟨rfl, rfl⟩ | ⟨value, rfl, hread⟩)
    · exact ⟨.inl ⟨rfl, by simp [Field.of]⟩, rfl⟩
    · exact ⟨.inr ⟨value, rfl, accepts_of_iff.mpr ⟨a, hread⟩⟩, hread⟩

end Field

namespace Shape

variable {α : Type} {name : String} {decoder : Decoder α} {default : α} {a : α}

theorem decoder_defaulted_object_eq_ok_iff {members : List (Option String × Draft)} :
    (Shape.defaulted name decoder default).decoder (.object members) = .ok a ↔
      (∀ member ∈ members, member.1 ≠ none) ∧
        (∀ other value, (some other, value) ∈ members → other ≠ name →
          value.isWellFormed = true) ∧
        (Draft.named name members = [] ∧ a = default ∨
          ∃ value, Draft.named name members = [value] ∧ decoder value = .ok a) := by
  let field : Field := .of name .defaulted decoder
  have hfield : field ∈ [field] := List.mem_cons_self
  have hdistinct : Record.Distinct (Shape.defaulted name decoder default).fields :=
    List.nodup_singleton _
  have hreads : field.Takes (Draft.named name members) ∧
        (Record.known [field] members).getD name decoder default = .ok a ↔ _ :=
    Field.defaulted_reads (Record.lookup_known hfield members) a default
  have hpassed : ∀ other : String, (∀ known ∈ [field], known.name ≠ other) ↔ other ≠ name := by
    intro other
    rw [List.forall_mem_singleton]
    exact ne_comm
  rw [decoder_object_eq_ok_iff hdistinct]
  constructor
  · rintro ⟨hfits, hread⟩
    refine ⟨hfits.named, fun other value hmember hother => ?_, hreads.mp ⟨?_, hread⟩⟩
    · exact hfits.passed other value hmember ((hpassed other).mpr hother)
    · exact hfits.takes field hfield
  · rintro ⟨hnames, hothers, hvalue⟩
    obtain ⟨htakes, hread⟩ := hreads.mpr hvalue
    refine ⟨⟨hnames, fun other value hmember hother => ?_, ?_⟩, hread⟩
    · exact hothers other value hmember ((hpassed other).mp hother)
    · exact List.forall_mem_singleton.mpr htakes

theorem decoder_defaulted_array_eq_ok_iff {items : List Draft} :
    (Shape.defaulted name decoder default).decoder (.array items) = .ok a ↔
      items = [] ∧ a = default ∨ ∃ value, items = [value] ∧ decoder value = .ok a := by
  let field : Field := .of name .defaulted decoder
  have hpresence : field.presence = .defaulted := rfl
  have hlookup : (items.map fun value => (name, value)).lookup name = items.head? := by
    cases items <;> simp
  rw [decoder_array_eq_ok_iff, ← Field.defaulted_reads hlookup]
  constructor
  · rintro ⟨record, hitems, hread⟩
    obtain ⟨htakes, rfl⟩ := (Record.ofItems_defaulted_eq_ok_iff hpresence).mp hitems
    exact ⟨htakes, hread⟩
  · rintro ⟨htakes, hread⟩
    exact ⟨_, (Record.ofItems_defaulted_eq_ok_iff hpresence).mpr ⟨htakes, rfl⟩, hread⟩

end Shape

/-! ## What is read at all -/

namespace Record

/-- The items of an array are what the fields may have, in order; fields at the end may be missing
if they have a default. -/
inductive Placed : List Field → List Draft → Prop
  | ended {fields : List Field} (h : ∀ field ∈ fields, field.presence = .defaulted) :
      Placed fields []
  | next {field : Field} {fields : List Field} {value : Draft} {values : List Draft}
      (haccepts : field.accepts value = .ok ()) (hrest : Placed fields values) :
      Placed (field :: fields) (value :: values)

/-- Values that can be read as a record of these fields. -/
inductive Written (fields : List Field) : Draft → Prop
  | object {members : List (Option String × Draft)} (h : Fits fields [] members) :
      Written fields (.object members)
  | array {items : List Draft} (h : Placed fields items) : Written fields (.array items)

/-- A record has for each field what the field may have. -/
def Serves (record : Record) (fields : List Field) : Prop :=
  ∀ field ∈ fields, ∃ values, field.Takes values ∧ record.lookup field.name = values.head?

variable {fields : List Field} {items : List Draft} {record : Record}

theorem placed_of_ofItems (h : ofItems fields items = .ok record) : Placed fields items := by
  induction items generalizing fields record with
  | nil =>
      apply Placed.ended
      cases fields with
      | nil => simp
      | cons field fields =>
          rw [ofItems] at h
          · split at h
            next hall => simpa using hall
            · cases h
          · simp
  | cons value items ih =>
      cases fields with
      | nil => cases h
      | cons field fields =>
          obtain ⟨haccepts, more, hmore, -⟩ := ofItems_cons_eq_ok_iff.mp h
          exact .next haccepts (ih hmore)

theorem exists_ofItems (hdistinct : Distinct fields) (h : Placed fields items) :
    ∃ record, ofItems fields items = .ok record ∧ record.Serves fields := by
  induction h with
  | @ended fields hdefaulted =>
      refine ⟨[], ?_, ?_⟩
      · cases fields with
        | nil => rfl
        | cons field fields =>
            rw [ofItems, if_pos (by simpa using hdefaulted)]
            simp
      · intro field hfield
        refine ⟨[], .inl ⟨rfl, ?_⟩, rfl⟩
        rw [hdefaulted field hfield]
        simp
  | @next field fields value values haccepts hrest ih =>
      obtain ⟨hnew, hothers⟩ := List.nodup_cons.mp hdistinct
      obtain ⟨more, hmore, hserves⟩ := ih hothers
      refine ⟨(field.name, value) :: more, ?_, ?_⟩
      · exact ofItems_cons_eq_ok_iff.mpr ⟨haccepts, more, hmore, rfl⟩
      · intro other hother
        rcases List.mem_cons.mp hother with rfl | hother
        · exact ⟨[value], .inr ⟨value, rfl, haccepts⟩, by simp⟩
        · obtain ⟨found, htakes, hlookup⟩ := hserves other hother
          have hname : other.name ≠ field.name := by
            intro heq
            exact hnew (heq ▸ List.mem_map_of_mem hother)
          refine ⟨found, htakes, ?_⟩
          rw [List.lookup_cons, beq_eq_false_iff_ne.mpr hname, hlookup]

end Record

namespace Shape

variable {α β : Type}

/-- Whatever its fields may have makes a value. -/
def Reads (shape : Shape α) : Prop :=
  ∀ record : Record, record.Serves shape.fields → ∃ a, shape.read record = .ok a

theorem reads_required (name : String) (decoder : Decoder α) : (required name decoder).Reads := by
  intro record hserves
  obtain ⟨values, htakes, hlookup⟩ := hserves _ List.mem_cons_self
  rcases htakes with ⟨-, habsurd⟩ | ⟨value, rfl, haccepts⟩
  · exact absurd rfl habsurd
  · obtain ⟨a, ha⟩ := Field.accepts_of_iff.mp haccepts
    exact ⟨a, ((Field.required_reads hlookup a).mpr ⟨value, rfl, ha⟩).2⟩

theorem reads_defaulted (name : String) (decoder : Decoder α) (default : α) :
    (defaulted name decoder default).Reads := by
  intro record hserves
  obtain ⟨values, htakes, hlookup⟩ := hserves _ List.mem_cons_self
  rcases htakes with ⟨rfl, -⟩ | ⟨value, rfl, haccepts⟩
  · exact ⟨default, ((Field.defaulted_reads hlookup default default).mpr (.inl ⟨rfl, rfl⟩)).2⟩
  · obtain ⟨a, ha⟩ := Field.accepts_of_iff.mp haccepts
    exact ⟨a, ((Field.defaulted_reads hlookup a default).mpr (.inr ⟨value, rfl, ha⟩)).2⟩

theorem Reads.seq {f : Shape (α → β)} {a : Shape α} (hf : f.Reads) (ha : a.Reads) :
    (f <*> a).Reads := by
  intro record hserves
  obtain ⟨g, hg⟩ := hf record fun field hfield => hserves field (List.mem_append_left _ hfield)
  obtain ⟨x, hx⟩ := ha record fun field hfield => hserves field (List.mem_append_right _ hfield)
  refine ⟨g x, ?_⟩
  rw [read_seq, hg, hx]
  rfl

theorem Reads.map (f : α → β) {a : Shape α} (ha : a.Reads) : (f <$> a).Reads := by
  intro record hserves
  obtain ⟨x, hx⟩ := ha record hserves
  refine ⟨f x, ?_⟩
  rw [read_map, hx]
  rfl

/-- A value is read exactly if it is written as its fields say. -/
theorem exists_decoder_iff {shape : Shape α} (hreads : shape.Reads)
    (hdistinct : Record.Distinct shape.fields) {draft : Draft} :
    (∃ a, shape.decoder draft = .ok a) ↔ Record.Written shape.fields draft := by
  cases draft with
  | object members =>
      simp only [decoder_object_eq_ok_iff hdistinct]
      constructor
      · rintro ⟨a, hfits, -⟩
        exact .object hfits
      · intro hwritten
        cases hwritten with
        | object hfits =>
            obtain ⟨a, ha⟩ := hreads (Record.known shape.fields members) fun field hfield =>
              ⟨_, hfits.takes field hfield, Record.lookup_known hfield members⟩
            exact ⟨a, hfits, ha⟩
  | array items =>
      simp only [decoder_array_eq_ok_iff]
      constructor
      · rintro ⟨a, record, hitems, -⟩
        exact .array (Record.placed_of_ofItems hitems)
      · intro hwritten
        cases hwritten with
        | array hplaced =>
            obtain ⟨record, hitems, hserves⟩ := Record.exists_ofItems hdistinct hplaced
            obtain ⟨a, ha⟩ := hreads record hserves
            exact ⟨a, record, hitems, ha⟩
  | string s =>
      constructor
      · rintro ⟨a, h⟩
        cases s <;> cases h
      · intro h
        cases h
  | _ =>
      constructor
      · rintro ⟨a, h⟩
        cases h
      · intro h
        cases h

end Shape

/-- A list is read exactly if each of its items is. -/
theorem Decoder.exists_list_iff {α : Type} {decoder : Decoder α} {draft : Draft} :
    (∃ list, Decoder.list decoder draft = .ok list) ↔
      ∃ items, draft = .array items ∧ ∀ item ∈ items, ∃ a, decoder item = .ok a := by
  cases draft with
  | array items =>
      simp only [Decoder.list, Draft.array.injEq, exists_eq_left']
      induction items with
      | nil => simp [pure, Except.pure]
      | cons item items ih =>
          rw [List.forall_mem_cons, ← ih, List.mapM_cons]
          cases decoder item with
          | error e => simp [bind, Except.bind]
          | ok a =>
              cases items.mapM decoder with
              | error e => simp [bind, Except.bind]
              | ok rest => simp [bind, Except.bind, pure, Except.pure]
  | string s => cases s <;> simp [Decoder.list, Decoder.refuse]
  | _ => simp [Decoder.list, Decoder.refuse]

/-- Bytes are read exactly if they hold one value and nothing after it, which is read. -/
theorem exists_decodeBytes_iff {α : Type} {decoder : Decoder α} {bytes : List UInt8} :
    (∃ a, decodeBytes decoder bytes = .ok a) ↔
      ∃ draft, Draft.parseBytes bytes = (draft, []) ∧ ∃ a, decoder draft = .ok a := by
  unfold decodeBytes
  rcases Draft.parseBytes bytes with ⟨draft, _ | ⟨token, rest⟩⟩
  · simp only [Prod.mk.injEq, and_true, exists_eq_left']
    cases hread : decoder draft <;> simp
  · cases hread : decoder draft <;> simp [hread]

/-! ## Objects of values -/

/-- The values under a name, in order. -/
def named (name : String) (members : List (String × Json)) : List Json :=
  (members.filter (·.1 == name)).map Prod.snd

namespace Draft

mutual

theorem isWellFormed_ofJson (value : Json) : (ofJson value).isWellFormed = true := by
  cases value with
  | array items => exact areWellFormed_itemsOfJson items
  | object members => exact membersWellFormed_membersOfJson members
  | _ => rfl

theorem areWellFormed_itemsOfJson (items : List Json) :
    areWellFormed (itemsOfJson items) = true := by
  match items with
  | [] => rfl
  | item :: rest =>
      rw [itemsOfJson, areWellFormed, isWellFormed_ofJson item, areWellFormed_itemsOfJson rest]
      rfl

theorem membersWellFormed_membersOfJson (members : List (String × Json)) :
    membersWellFormed (membersOfJson members) = true := by
  match members with
  | [] => rfl
  | (name, value) :: rest =>
      rw [membersOfJson, membersWellFormed, isWellFormed_ofJson value,
        membersWellFormed_membersOfJson rest]
      rfl

end

theorem itemsOfJson_eq (items : List Json) : itemsOfJson items = items.map ofJson := by
  induction items with
  | nil => rfl
  | cons item items ih => rw [itemsOfJson, ih, List.map_cons]

theorem membersOfJson_eq (members : List (String × Json)) :
    membersOfJson members = members.map fun member => (some member.1, ofJson member.2) := by
  induction members with
  | nil => rfl
  | cons member members ih => rw [membersOfJson, ih, List.map_cons]

theorem named_membersOfJson (name : String) (members : List (String × Json)) :
    named name (membersOfJson members) = (Json.named name members).map ofJson := by
  rw [membersOfJson_eq, named, Json.named, List.filter_map, List.map_map, List.map_map]
  rfl

end Draft

theorem Record.fits_membersOfJson {fields : List Field} {members : List (String × Json)} :
    Fits fields [] (Draft.membersOfJson members) ↔
      ∀ field ∈ fields, field.Takes ((Json.named field.name members).map Draft.ofJson) := by
  simp only [← Draft.named_membersOfJson]
  constructor
  · intro hfits field hfield
    exact hfits.takes field hfield
  · intro htakes
    refine ⟨?_, ?_, fun field hfield => htakes field hfield⟩
    · intro written hwritten
      obtain ⟨member, -, rfl⟩ := List.mem_map.mp (Draft.membersOfJson_eq members ▸ hwritten)
      simp
    · intro name value hwritten _
      obtain ⟨member, -, heq⟩ := List.mem_map.mp (Draft.membersOfJson_eq members ▸ hwritten)
      cases heq
      exact Draft.isWellFormed_ofJson member.2

namespace Field

variable {α : Type} {name : String} {decoder : Decoder α} {values : List Json} {record : Record}

theorem exists_map_ofJson_eq_singleton {P : Draft → Prop} :
    (∃ value, values.map Draft.ofJson = [value] ∧ P value) ↔
      ∃ value, values = [value] ∧ P (Draft.ofJson value) := by
  constructor
  · rintro ⟨_, hvalue, hread⟩
    obtain ⟨value, rfl, rfl⟩ := List.map_eq_singleton_iff.mp hvalue
    exact ⟨value, rfl, hread⟩
  · rintro ⟨value, rfl, hread⟩
    exact ⟨_, rfl, hread⟩

theorem required_reads_ofJson (hlookup : record.lookup name = (values.map Draft.ofJson).head?)
    (a : α) :
    ((Field.of name .required decoder).Takes (values.map Draft.ofJson) ∧
        record.get name decoder = .ok a) ↔
      ∃ value, values = [value] ∧ decoder (Draft.ofJson value) = .ok a := by
  rw [required_reads hlookup, exists_map_ofJson_eq_singleton]

theorem defaulted_reads_ofJson (hlookup : record.lookup name = (values.map Draft.ofJson).head?)
    (a default : α) :
    ((Field.of name .defaulted decoder).Takes (values.map Draft.ofJson) ∧
        record.getD name decoder default = .ok a) ↔
      (values = [] ∧ a = default) ∨
        ∃ value, values = [value] ∧ decoder (Draft.ofJson value) = .ok a := by
  rw [defaulted_reads hlookup, List.map_eq_nil_iff, exists_map_ofJson_eq_singleton]

end Field

theorem Record.lookup_known_membersOfJson {fields : List Field} {field : Field}
    (hfield : field ∈ fields) (members : List (String × Json)) :
    (known fields (Draft.membersOfJson members)).lookup field.name =
      ((Json.named field.name members).map Draft.ofJson).head? := by
  rw [lookup_known hfield, Draft.named_membersOfJson]

theorem Shape.decoder_required_membersOfJson_eq_ok_iff {α : Type} {name : String}
    {decoder : Decoder α} {members : List (String × Json)} {a : α} :
    (Shape.required name decoder).decoder (.object (Draft.membersOfJson members)) = .ok a ↔
      ∃ value, Json.named name members = [value] ∧ decoder (Draft.ofJson value) = .ok a := by
  let field : Field := .of name .required decoder
  have hfield : field ∈ [field] := List.mem_cons_self
  have hdistinct : Record.Distinct (Shape.required name decoder).fields := List.nodup_singleton _
  refine Iff.trans ?_
    (Field.required_reads_ofJson (Record.lookup_known_membersOfJson hfield members) a)
  rw [Shape.decoder_object_eq_ok_iff hdistinct, Record.fits_membersOfJson]
  exact and_congr List.forall_mem_singleton Iff.rfl

/-- A list is read exactly if each of its items is. -/
theorem Decoder.list_ofJson_eq_ok_iff {α : Type} {decoder : Decoder α} {items : List Json}
    {list : List α} :
    Decoder.list decoder (Draft.ofJson (.array items)) = .ok list ↔
      List.Forall₂ (fun item a => decoder (Draft.ofJson item) = .ok a) items list := by
  rw [Draft.ofJson, Draft.itemsOfJson_eq, Decoder.list]
  induction items generalizing list with
  | nil => simp [pure, Except.pure, eq_comm]
  | cons item items ih =>
      rw [List.map_cons, List.mapM_cons, List.forall₂_cons_left_iff]
      cases hitem : decoder (Draft.ofJson item) with
      | error e => simp [bind, Except.bind]
      | ok a =>
          simp only [← ih]
          cases hrest : (items.map Draft.ofJson).mapM decoder with
          | error e => simp [bind, Except.bind]
          | ok rest => simp [bind, Except.bind, pure, Except.pure, eq_comm]

theorem Decoder.string_ofJson_eq_ok_iff {value : Json} {s : String} :
    Decoder.string (Draft.ofJson value) = .ok s ↔ value = .string s := by
  cases value <;> simp [Draft.ofJson, Decoder.string, Decoder.refuse]

theorem Decoder.bool_ofJson_eq_ok_iff {value : Json} {b : Bool} :
    Decoder.bool (Draft.ofJson value) = .ok b ↔ value = .bool b := by
  cases value <;> simp [Draft.ofJson, Decoder.bool, Decoder.refuse]

theorem Decoder.bool_eq_ok_iff {value : Draft} {b : Bool} :
    Decoder.bool value = .ok b ↔ value = .bool b := by
  cases value with
  | string s => cases s <;> simp [Decoder.bool, Decoder.refuse]
  | _ => simp [Decoder.bool, Decoder.refuse]

end AccessGateway.Json
