import Gherkin.Proofs.Grammar.Soundness

namespace Gherkin

open scoped Computability

/-!
# What derives from the grammar is read

For two sets of places, `Leads` is the set of the words that take a document from
any place of the first to some place of the second, wherever blank lines and
comments stand among them.  Such sets are closed under the operations of the
grammar, so each rule of the grammar leads where the rules in it do.

With the other direction this gives the main result: a document is accepted
exactly if its lines derive from the grammar.
-/

namespace Grammar

/-- A set of places, each with whether tags are waiting. -/
abbrev Places : Type :=
  Place → Bool → Prop

/-- No doc-string is open at any of the places. -/
def Places.Outside (places : Places) : Prop :=
  ∀ place waiting, places place waiting → place.separator? = none

/-- The words that a document reads on its way from one set of places to another. -/
def Leads (dialect : Dialect) (before after : Places) : WordSet Item :=
  { word | ∀ items, items.filter (Item.isSignificant dialect) = word → Faultless dialect items →
    ∀ draft place waiting, before place waiting → Document.Draft.At draft place waiting →
      ∃ final later waits, after later waits ∧ Document.Draft.At final later waits ∧
        Document.Draft.Reads dialect draft (items.flatMap Item.lines) final }

variable {dialect : Dialect} {before between after : Places} {first second : WordSet Item}

/-! ## The operations of the grammar -/

theorem Faultless.left {items others : List Item} (both : Faultless dialect (items ++ others)) :
    Faultless dialect items :=
  fun line listed => both line (List.mem_append_left _ listed)

theorem Faultless.right {items others : List Item} (both : Faultless dialect (items ++ others)) :
    Faultless dialect others :=
  fun line listed => both line (List.mem_append_right _ listed)

/-- Items that are not significant move nothing outside doc-strings. -/
theorem reads_of_insignificant (standard : dialect.separators = .standard) {items : List Item}
    (insignificant : items.filter (Item.isSignificant dialect) = []) {draft : Document.Draft}
    {place : Place} {waiting : Bool} (outside : place.separator? = none)
    (here : draft.At place waiting) :
    ∃ final, final.At place waiting ∧
      Document.Draft.Reads dialect draft (items.flatMap Item.lines) final := by
  induction items generalizing draft with
  | nil => exact ⟨draft, here, .nil draft⟩
  | cons item rest inductionHypothesis =>
      have dull : Item.isSignificant dialect item = false := by
        cases significant : Item.isSignificant dialect item with
        | false => rfl
        | true => simp [List.filter_cons_of_pos significant] at insignificant
      rw [List.filter_cons_of_neg (by simp [dull])] at insignificant
      cases item with
      | docString => cases dull
      | line line =>
          have kind : dialect.kind line = .blank ∨ dialect.kind line = .comment := by
            simpa [Item.isSignificant, or_iff_not_imp_left] using dull
          rcases here.exists_takes_of_step standard (.trivial outside kind) with
            ⟨next, taken, still⟩
          rcases inductionHypothesis insignificant still with ⟨final, arrived, run⟩
          exact ⟨final, arrived, .cons taken run⟩

theorem one_le_leads (standard : dialect.separators = .standard) (outside : before.Outside)
    (kept : ∀ place waiting, before place waiting → after place waiting) :
    1 ≤ Leads dialect before after := by
  rintro word rfl items insignificant faultless draft place waiting listed here
  rcases reads_of_insignificant standard insignificant (outside place waiting listed) here with
    ⟨final, arrived, run⟩
  exact ⟨final, place, waiting, kept place waiting listed, arrived, run⟩

theorem mul_le_leads (left : first ≤ Leads dialect before between)
    (right : second ≤ Leads dialect between after) : first * second ≤ Leads dialect before after := by
  intro word listed items same faultless draft place waiting begun here
  rcases Language.mem_mul.mp listed with ⟨start, startListed, rest, restListed, rfl⟩
  rcases List.filter_eq_append_iff.mp same with ⟨items, others, rfl, rfl, rfl⟩
  rcases left startListed items rfl faultless.left draft place waiting begun here with
    ⟨middle, place, waiting, reached, halfway, run⟩
  rcases right restListed others rfl faultless.right middle place waiting reached halfway with
    ⟨final, later, waits, ended, arrived, more⟩
  exact ⟨final, later, waits, ended, arrived, by simpa using run.append more⟩

theorem kstar_le_leads (standard : dialect.separators = .standard) (outside : before.Outside)
    (loop : first ≤ Leads dialect before before) : first∗ ≤ Leads dialect before before :=
  kstar_le_of_mul_le_left (one_le_leads standard outside fun _ _ listed => listed)
    (mul_le_leads le_rfl loop)

theorem Leads.mono {earlier later : Places}
    (narrow : ∀ place waiting, earlier place waiting → before place waiting)
    (wide : ∀ place waiting, after place waiting → later place waiting) :
    Leads dialect before after ≤ Leads dialect earlier later := by
  intro word listed items same faultless draft place waiting begun here
  rcases listed items same faultless draft place waiting (narrow place waiting begun) here with
    ⟨final, last, waits, ended, arrived, run⟩
  exact ⟨final, last, waits, wide last waits ended, arrived, run⟩

/-- One item leads on if its lines do, whatever trivial items stand around it. -/
theorem item_mem_leads (standard : dialect.separators = .standard) (outside : before.Outside)
    (closed : after.Outside) {item : Item}
    (leads : Faultless dialect [item] → ∀ draft place waiting, before place waiting →
      Document.Draft.At draft place waiting →
        ∃ final later waits, after later waits ∧ Document.Draft.At final later waits ∧
          Document.Draft.Reads dialect draft item.lines final) :
    [item] ∈ Leads dialect before after := by
  intro items same faultless draft place waiting begun here
  rcases List.filter_eq_cons_iff.mp same with ⟨lead, trail, rfl, dull, significant, rest⟩
  have own : Faultless dialect ([item] ++ trail) := faultless.right
  rcases reads_of_insignificant standard
      (List.filter_eq_nil_iff.mpr dull) (outside place waiting begun) here with ⟨ready, still, run⟩
  rcases leads own.left ready place waiting begun still with
    ⟨next, later, waits, ended, arrived, middle⟩
  rcases reads_of_insignificant standard rest (closed later waits ended) arrived with
    ⟨final, settled, more⟩
  refine ⟨final, later, waits, ended, settled, ?_⟩
  simpa using run.append (middle.append more)

/-- One line leads on if there is a step for it. -/
theorem line_mem_leads (standard : dialect.separators = .standard) (outside : before.Outside)
    (closed : after.Outside) {line : Line}
    (step : Faultless dialect [.line line] → ∀ place waiting, before place waiting →
      ∃ later waits, after later waits ∧ Place.Step dialect line place waiting later waits) :
    [.line line] ∈ Leads dialect before after := by
  apply item_mem_leads standard outside closed
  intro faultless draft place waiting begun here
  rcases step faultless place waiting begun with ⟨later, waits, ended, step⟩
  rcases here.exists_takes_of_step standard step with ⟨final, taken, arrived⟩
  exact ⟨final, later, waits, ended, arrived, .cons taken (.nil final)⟩

/-! ## Sets of places -/

/-- One place, where no tags are waiting. -/
def Only (place : Place) : Places :=
  fun other waiting => other = place ∧ waiting = false

/-- The places in a body at which a further step may come. -/
def Settled (owner : Body.Owner) : Places :=
  fun place waiting => ∃ phase, place = .body owner phase ∧ phase.separator? = none ∧ waiting = false

/-- The places at which a scenario may come, with or without waiting tags. -/
def Begun : Places :=
  fun place _ => place ≠ .opening ∧ place.separator? = none

/-- The places at which an examples block may come, with or without waiting tags. -/
def Outlined : Places :=
  fun place _ => place.InOutline ∧ place.separator? = none

/-- The given places, as far as no tags are waiting. -/
def Places.Idle (places : Places) : Places :=
  fun place waiting => places place waiting ∧ waiting = false

theorem outside_only {place : Place} (outside : place.separator? = none) : (Only place).Outside := by
  rintro _ _ ⟨rfl, rfl⟩
  exact outside

theorem outside_settled (owner : Body.Owner) : (Settled owner).Outside := by
  rintro _ _ ⟨phase, rfl, outside, rfl⟩
  exact outside

theorem outside_begun : Begun.Outside :=
  fun _ _ listed => listed.2

theorem outside_outlined : Outlined.Outside :=
  fun _ _ listed => listed.2

theorem Places.Outside.idle {places : Places} (outside : places.Outside) : places.Idle.Outside :=
  fun place waiting listed => outside place waiting listed.1

/-! ## The rules of the grammar -/

section Rules

variable (standard : dialect.separators = .standard)

include standard

theorem one_le_leads_of_step {kind : Kind} (outside : before.Outside) (closed : after.Outside)
    (step : ∀ line, dialect.kind line = kind → Faultless dialect [.line line] →
      ∀ place waiting, before place waiting →
        ∃ later waits, after later waits ∧ Place.Step dialect line place waiting later waits) :
    one dialect kind ≤ Leads dialect before after := by
  rintro word ⟨line, rfl, given⟩
  exact line_mem_leads standard outside closed (step line given)

/-- Tags may come wherever tags may be waiting. -/
theorem tags_le_leads (outside : before.Outside)
    (patient : ∀ place waiting, before place waiting → before place true) :
    tags dialect ≤ Leads dialect before before := by
  refine kstar_le_leads standard outside (one_le_leads_of_step standard outside outside ?_)
  intro line kind faultless place waiting listed
  exact ⟨place, true, patient place waiting listed,
    .tag (outside place waiting listed) kind
      (Tag.faultsOnLine_eq_nil_iff.mpr (faultless line List.mem_cons_self kind))⟩

/-- A line that is read at one place, and leads to one place. -/
theorem one_le_leads_only {kind : Kind} {place later : Place} (outside : place.separator? = none)
    (closed : later.separator? = none)
    (step : ∀ line, dialect.kind line = kind → Place.Step dialect line place false later false) :
    one dialect kind ≤ Leads dialect (Only place) (Only later) := by
  apply one_le_leads_of_step standard (outside_only outside) (outside_only closed)
  rintro line given - _ _ ⟨rfl, rfl⟩
  exact ⟨later, false, ⟨rfl, rfl⟩, step line given⟩

theorem texts_le_leads_header :
    texts dialect ≤ Leads dialect (Only .header) (Only .header) :=
  kstar_le_leads standard (outside_only rfl)
    (one_le_leads_only standard rfl rfl fun _ kind => .text kind)

theorem texts_le_leads_body (owner : Body.Owner) :
    texts dialect ≤
      Leads dialect (Only (.body owner .description)) (Only (.body owner .description)) :=
  kstar_le_leads standard (outside_only rfl)
    (one_le_leads_only standard rfl rfl fun _ kind => .body (.text kind))

theorem notes_le_leads :
    (one dialect .text + one dialect .separator)∗ ≤
      Leads dialect (Only (.examples none)) (Only (.examples none)) :=
  kstar_le_leads standard (outside_only rfl) (add_le
    (one_le_leads_only standard rfl rfl fun _ kind => .note (.inl kind))
    (one_le_leads_only standard rfl rfl fun _ kind => .note (.inr kind)))

/-- A table is read row by row, where a first row and further ones can be read. -/
theorem rows_le_leads {columns : Nat} {place later : Place} (outside : place.separator? = none)
    (closed : later.separator? = none)
    (header : ∀ line, dialect.kind line = .row → (Row.cellsOnLine line).length = columns →
      Place.Step dialect line place false later false)
    (further : ∀ line, dialect.kind line = .row → (Row.cellsOnLine line).length = columns →
      Place.Step dialect line later false later false) :
    rows dialect columns ≤ Leads dialect (Only place) (Only later) := by
  have row_le {place : Place} (outside : place.separator? = none)
      (step : ∀ line, dialect.kind line = .row → (Row.cellsOnLine line).length = columns →
        Place.Step dialect line place false later false) :
      row dialect columns ≤ Leads dialect (Only place) (Only later) := by
    rintro word ⟨line, rfl, kind, count⟩
    apply line_mem_leads standard (outside_only outside) (outside_only closed)
    rintro - _ _ ⟨rfl, rfl⟩
    exact ⟨later, false, ⟨rfl, rfl⟩, step line kind count⟩
  exact mul_le_leads (row_le outside header)
    (kstar_le_leads standard (outside_only closed) (row_le closed further))

theorem docString_le_leads (owner : Body.Owner) :
    docString dialect ≤ Leads dialect (Only (.body owner .bare)) (Only (.body owner .closed)) := by
  rintro word ⟨opening, body, closing, separator, rfl, kind, found, kept, closes⟩
  apply item_mem_leads standard (outside_only rfl) (outside_only rfl)
  rintro - draft _ _ ⟨rfl, rfl⟩ here
  rcases here.exists_takes_of_step standard (.body (.opening kind found)) with
    ⟨opened, taken, inside⟩
  have content : ∃ filled : Document.Draft, filled.At (.body owner (.docString separator)) false ∧
      Document.Draft.Reads dialect opened body filled := by
    clear kind found closes taken
    induction body generalizing opened with
    | nil => exact ⟨opened, inside, .nil opened⟩
    | cons line rest inductionHypothesis =>
        rcases inside.exists_takes_of_step standard
            (.body (.content (kept line List.mem_cons_self))) with ⟨next, taken, still⟩
        rcases inductionHypothesis (fun other listed => kept other (List.mem_cons_of_mem _ listed))
            next still with ⟨filled, arrived, run⟩
        exact ⟨filled, arrived, .cons taken run⟩
  rcases content with ⟨filled, still, run⟩
  rcases still.exists_takes_of_step standard (.body (.closing closes)) with ⟨final, closed, arrived⟩
  exact ⟨final, _, _, ⟨rfl, rfl⟩, arrived, .cons taken (run.append (.cons closed (.nil final)))⟩

theorem steps_le_leads (owner : Body.Owner) :
    steps dialect ≤ Leads dialect (Settled owner) (Settled owner) := by
  have settled (phase : Body.Phase) (outside : phase.separator? = none) :
      ∀ place waiting, Only (.body owner phase) place waiting → Settled owner place waiting := by
    rintro _ _ ⟨rfl, rfl⟩
    exact ⟨phase, rfl, outside, rfl⟩
  have step : one dialect .step ≤ Leads dialect (Settled owner) (Only (.body owner .bare)) := by
    apply one_le_leads_of_step standard (outside_settled owner) (outside_only rfl)
    rintro line kind - _ _ ⟨phase, rfl, outside, rfl⟩
    exact ⟨_, _, ⟨rfl, rfl⟩, .body (.step outside kind)⟩
  have bare : 1 ≤ Leads dialect (Only (.body owner .bare)) (Settled owner) :=
    one_le_leads standard (outside_only rfl) (settled .bare rfl)
  have table : table dialect ≤ Leads dialect (Only (.body owner .bare)) (Settled owner) := by
    refine iSup_le fun columns => ?_
    refine (rows_le_leads standard rfl rfl ?_ ?_).trans
      (Leads.mono (fun _ _ listed => listed) (settled (.table columns) rfl))
    · rintro line kind rfl
      exact .body (.header kind)
    · rintro line kind rfl
      exact .body (.row kind)
  have docString : docString dialect ≤ Leads dialect (Only (.body owner .bare)) (Settled owner) :=
    (docString_le_leads standard owner).trans (Leads.mono (fun _ _ listed => listed) (settled .closed rfl))
  exact kstar_le_leads standard (outside_settled owner)
    (mul_le_leads step (add_le (add_le bare table) docString))

/-- Below the heading of a background or scenario come its description and steps. -/
theorem body_le_leads (owner : Body.Owner) :
    texts dialect * steps dialect ≤
      Leads dialect (Only (.body owner .description)) (Settled owner) := by
  refine mul_le_leads (texts_le_leads_body standard owner) ((steps_le_leads standard owner).trans
    (Leads.mono ?_ fun _ _ listed => listed))
  rintro _ _ ⟨rfl, rfl⟩
  exact ⟨.description, rfl, rfl, rfl⟩

theorem examples_le_leads : examples dialect ≤ Leads dialect Outlined Outlined.Idle := by
  have tags := tags_le_leads standard outside_outlined fun _ _ listed => listed
  have heading : one dialect .examples ≤ Leads dialect Outlined (Only (.examples none)) := by
    apply one_le_leads_of_step standard outside_outlined (outside_only rfl)
    rintro line kind - place waiting ⟨inOutline, outside⟩
    exact ⟨_, _, ⟨rfl, rfl⟩, .examples inOutline outside kind⟩
  have idle (columns : Option Nat) :
      ∀ place waiting, Only (.examples columns) place waiting → Outlined.Idle place waiting := by
    rintro _ _ ⟨rfl, rfl⟩
    exact ⟨⟨True.intro, rfl⟩, rfl⟩
  have bare : 1 ≤ Leads dialect (Only (.examples none)) Outlined.Idle :=
    one_le_leads standard (outside_only rfl) (idle none)
  have table : table dialect ≤ Leads dialect (Only (.examples none)) Outlined.Idle := by
    refine iSup_le fun columns => ?_
    refine (rows_le_leads standard rfl rfl ?_ ?_).trans
      (Leads.mono (fun _ _ listed => listed) (idle (some columns)))
    · rintro line kind rfl
      exact .firstRow kind
    · rintro line kind rfl
      exact .row kind
  exact mul_le_leads (mul_le_leads (mul_le_leads tags heading) (notes_le_leads standard))
    (add_le bare table)

theorem scenario_le_leads : scenario dialect ≤ Leads dialect Begun Begun.Idle := by
  have tags := tags_le_leads standard outside_begun fun _ _ listed => listed
  have scenario : one dialect .scenario ≤
      Leads dialect Begun (Only (.body .scenario .description)) := by
    apply one_le_leads_of_step standard outside_begun (outside_only rfl)
    rintro line kind - place waiting ⟨begun, outside⟩
    exact ⟨_, _, ⟨rfl, rfl⟩, .scenario begun outside kind⟩
  have outline : one dialect .scenarioOutline ≤
      Leads dialect Begun (Only (.body .outline .description)) := by
    apply one_le_leads_of_step standard outside_begun (outside_only rfl)
    rintro line kind - place waiting ⟨begun, outside⟩
    exact ⟨_, _, ⟨rfl, rfl⟩, .outline begun outside kind⟩
  have complete : Leads dialect Begun (Settled .scenario) ≤ Leads dialect Begun Begun.Idle := by
    apply Leads.mono (fun _ _ listed => listed)
    rintro _ _ ⟨phase, rfl, outside, rfl⟩
    exact ⟨⟨nofun, outside⟩, rfl⟩
  have examples : (examples dialect)∗ ≤ Leads dialect (Settled .outline) Begun.Idle := by
    refine (kstar_le_leads standard outside_outlined.idle ((examples_le_leads standard).trans
      (Leads.mono (fun _ _ listed => listed.1) fun _ _ listed => listed))).trans (Leads.mono ?_ ?_)
    · rintro _ _ ⟨phase, rfl, outside, rfl⟩
      exact ⟨⟨rfl, outside⟩, rfl⟩
    · rintro place waiting ⟨⟨inOutline, outside⟩, rfl⟩
      exact ⟨⟨by rintro rfl; exact inOutline, outside⟩, rfl⟩
  rw [Grammar.scenario, mul_assoc _ _ (steps dialect), mul_assoc _ _ (steps dialect)]
  exact add_le
    ((mul_le_leads (mul_le_leads tags scenario) (body_le_leads standard .scenario)).trans complete)
    (mul_le_leads (mul_le_leads (mul_le_leads tags outline) (body_le_leads standard .outline)) examples)

theorem header_le_leads : header dialect ≤ Leads dialect (Only .header) Begun.Idle := by
  have bare : 1 ≤ Leads dialect (Only .header) Begun.Idle := by
    apply one_le_leads standard (outside_only rfl)
    rintro _ _ ⟨rfl, rfl⟩
    exact ⟨⟨nofun, rfl⟩, rfl⟩
  have heading : one dialect .background ≤
      Leads dialect (Only .header) (Only (.body .background .description)) :=
    one_le_leads_only standard rfl rfl fun _ kind => .background kind
  have background : one dialect .background * texts dialect * steps dialect ≤
      Leads dialect (Only .header) Begun.Idle := by
    rw [mul_assoc]
    refine (mul_le_leads heading (body_le_leads standard .background)).trans
      (Leads.mono (fun _ _ listed => listed) ?_)
    rintro _ _ ⟨phase, rfl, outside, rfl⟩
    exact ⟨⟨nofun, outside⟩, rfl⟩
  have scenarios : (scenario dialect)∗ ≤ Leads dialect Begun.Idle Begun.Idle :=
    kstar_le_leads standard outside_begun.idle ((scenario_le_leads standard).trans
      (Leads.mono (fun _ _ listed => listed.1) fun _ _ listed => listed))
  exact mul_le_leads (mul_le_leads (texts_le_leads_header standard) (add_le bare background)) scenarios

/-- Every document of the grammar is read to a place at which a document may end. -/
theorem document_le_leads :
    document dialect ≤ Leads dialect (Only .opening)
      fun place waiting => place.separator? = none ∧ waiting = false := by
  let opening : Places := fun place _ => place = .opening
  have outside : opening.Outside := by
    rintro _ _ rfl
    rfl
  have tags := tags_le_leads standard outside fun _ _ listed => listed
  have heading : one dialect .feature ≤ Leads dialect opening (Only .header) := by
    apply one_le_leads_of_step standard outside (outside_only rfl)
    rintro line kind - _ waiting rfl
    exact ⟨_, _, ⟨rfl, rfl⟩, .feature kind⟩
  have nothing : 1 ≤ Leads dialect (Only .opening)
      fun place waiting => place.separator? = none ∧ waiting = false := by
    apply one_le_leads standard (outside_only rfl)
    rintro _ _ ⟨rfl, rfl⟩
    exact ⟨rfl, rfl⟩
  refine add_le nothing ((mul_le_leads (mul_le_leads tags heading) (header_le_leads standard)).trans
    (Leads.mono ?_ ?_))
  · rintro _ _ ⟨rfl, rfl⟩
    exact rfl
  · rintro place waiting ⟨⟨-, outside⟩, rfl⟩
    exact ⟨outside, rfl⟩

end Rules

end Grammar

/-- The lines derive from the grammar: they are the lines of items that name no spaced
tags and, apart from blank lines and comments, are a document of the grammar. -/
def Grammar.Derives (dialect : Dialect) (lines : List Line) : Prop :=
  ∃ items : List Grammar.Item, items.flatMap Grammar.Item.lines = lines ∧
    Grammar.Faultless dialect items ∧
    items.filter (Grammar.Item.isSignificant dialect) ∈ Grammar.document dialect

open Document.Draft (start) in
/-- For the standard separators, a document is accepted exactly if its directive, where it
has one, names a known language, and its other lines derive from the grammar. -/
theorem accepted_iff_derives (languages : LanguageTable) (uri : Text) (texts : List Text) :
    (∃ document, parseLines ⟨languages, .standard⟩ uri texts = .ok document) ↔
      ∃ language lines, Preamble languages texts language lines ∧
        Grammar.Derives ⟨language, .standard⟩ lines := by
  have here (language : Language) : (start language).At .opening false :=
    .opening rfl
  constructor
  · rintro ⟨document, accepted⟩
    rcases parseLines_eq_ok_iff.mp accepted with
      ⟨language, lines, final, preamble, run, closed, unclaimed, -⟩
    have standard : (Dialect.mk language .standard).separators = .standard := rfl
    have nothing : Grammar.Explained ⟨language, .standard⟩ [] .opening false :=
      ⟨[], [], rfl, nofun, Language.nil_mem_one, rfl⟩
    rcases Grammar.explained_of_reads standard run (here language) nothing with
      ⟨place, waiting, arrived, items, opened, same, faultless, word, none⟩
    have outside := arrived.outside_iff.mp closed
    rw [outside] at none
    have settled : opened = [] := none
    have idle : waiting = false := by
      rw [arrived.waiting_eq, unclaimed]
      rfl
    subst settled idle
    exact ⟨language, lines, preamble, items, by simpa using same.symm, faultless,
      Grammar.read_le_document outside word⟩
  · rintro ⟨language, lines, preamble, items, rfl, faultless, word⟩
    have standard : (Dialect.mk language .standard).separators = .standard := rfl
    rcases Grammar.document_le_leads standard word items rfl faultless _ _ _ ⟨rfl, rfl⟩ (here language) with
      ⟨final, place, waiting, ⟨outside, idle⟩, arrived, run⟩
    have unclaimed : final.pending = none := by
      rw [arrived.waiting_eq] at idle
      simpa using idle
    exact ⟨final.finish uri, parseLines_eq_ok_iff.mpr ⟨language, _, final, preamble, run,
      arrived.outside_iff.mpr outside, unclaimed, rfl⟩⟩

end Gherkin
