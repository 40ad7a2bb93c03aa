import Stencil.Proofs.Host.Order
import Stencil.Proofs.Render.Agreement
import Stencil.Proofs.Text.ByteOrder
import Stencil.Proofs.Value.Order

/-!
# The rounds of a loop are independent

A loop runs all its rounds in one scope: the item and the key of a round are written over those
of the round before, and the flags are changed inside the context.  What the body finds in a
round is nevertheless what it would find in the variables around the loop with the item, the key
and a new context bound in them.  The invariant is on the variables between two rounds: they
differ from those around the loop in the names that each round binds again, and the context in
them differs from a new one in its flags only.
-/

namespace Stencil

/-! ## The entries of a source -/

namespace Value

theorem numbered_eq_mapIdx (position : Nat) (items : List Value) :
    numbered position items =
      items.mapIdx fun i item => (.number (Number.ofNat (position + i)), item) := by
  induction items generalizing position with
  | nil => rfl
  | cons item rest ih =>
      rw [numbered, ih, List.mapIdx_cons]
      refine congrArg _ (congrArg (List.mapIdx · rest) ?_)
      funext i other
      rw [Nat.add_assoc, Nat.add_comm 1 i]

theorem iteration_of_array {value : Value} {identity : Identity} {items : List Value}
    (h : value.unwrapped = .array identity items) :
    value.iteration = items.mapIdx fun i item => (.number (Number.ofNat i), item) := by
  rw [iteration, h]
  change numbered 0 items = _
  rw [numbered_eq_mapIdx]
  simp only [Nat.zero_add]

theorem iteration_of_map {value : Value} {identity : Identity} {fields : List (String × Value)}
    (h : value.unwrapped = .map identity fields) :
    value.iteration = fields.map fun field => (.string field.1, field.2) := by
  rw [iteration, h]

theorem iteration_of_other {value : Value}
    (harray : ∀ identity items, value.unwrapped ≠ .array identity items)
    (hmap : ∀ identity fields, value.unwrapped ≠ .map identity fields) :
    value.iteration = [] := by
  rw [iteration]
  split
  · rename_i hvalue
    exact absurd hvalue (harray _ _)
  · rename_i hvalue
    exact absurd hvalue (hmap _ _)
  · rfl

/-- The names in an ordered map ascend by their bytes. -/
theorem pairwise_bytes_of_ordered {value : Value} {identity : Identity}
    {fields : List (String × Value)} (h : value.Ordered)
    (hvalue : value.unwrapped = .map identity fields) :
    (fields.map fun field => Text.bytes field.1).Pairwise (· < ·) := by
  have hunwrapped := ordered_unwrapped h
  rw [hvalue] at hunwrapped
  cases hunwrapped with
  | map _ hascending hvalues =>
      have hbytes : (Entries.names fields).Pairwise fun name other =>
          Text.bytes name < Text.bytes other :=
        hascending.imp fun hlt => Text.bytes_lt_of_lt hlt
      rw [Entries.names, List.pairwise_map] at hbytes
      exact List.pairwise_map.mpr hbytes

end Value

/-! ## The context of a round -/

theorem Entries.modify_insert_self {α : Type} (name : String) (change : α → α) (datum : α)
    (entries : Entries α) :
    modify name change (insert name datum entries) = insert name (change datum) entries := by
  induction entries with
  | nil => simp [insert, modify]
  | cons entry rest ih =>
      obtain ⟨other, old⟩ := entry
      rw [insert, insert]
      by_cases hname : name = other
      · simp [hname, modify]
      · by_cases hlt : name < other
        · simp [hname, hlt, modify]
        · simp [hname, hlt, modify, ih]

namespace LoopContext

/-- The flags of a loop in one round. -/
def flags (depth : Nat) (first last : Bool) : Value :=
  .map (.loop depth .flags) [("first", .boolean first), ("last", .boolean last)]

/-- The context in one round: the one around the loop, with the flags of the round under the
loop's label in its map of loops. -/
def within (depth : Nat) (label : String) (first last : Bool) (around : Value) : Value :=
  let outer := around.mapEntries
  let loops := ((Entries.find? loopsName outer).getD .null).mapEntries
  .map (.loop depth .context)
    (Entries.insert loopsName
      (.map (.loop depth .loops) (Entries.insert label (flags depth first last) loops)) outer)

theorem putFlags_nil (first last : Bool) :
    putFlags first last [] = [("first", .boolean first), ("last", .boolean last)] := by
  have hne : "last" ≠ "first" := by decide
  have hlt : ¬ "last" < "first" := by decide
  simp [putFlags, Entries.insert, hlt]

theorem putFlags_flags (first last one other : Bool) :
    putFlags first last [("first", .boolean one), ("last", .boolean other)] =
      [("first", .boolean first), ("last", .boolean last)] := by
  have hlt : ¬ "last" < "first" := by decide
  simp [putFlags, Entries.insert, hlt]

theorem create_eq_within (depth : Nat) (label : String) (around : Value) :
    create depth label around = within depth label false false around := by
  rw [create, putFlags_nil, within, flags]

/-- Setting the flags leaves nothing of those before. -/
theorem setFlags_within (depth : Nat) (label : String) (first last one other : Bool)
    (around : Value) :
    setFlags depth label first last (within depth label one other around) =
      within depth label first last around := by
  rw [within, setFlags, changeMap, Entries.modify_insert_self, changeMap,
    Entries.modify_insert_self, flags, changeMap, putFlags_flags]
  rfl

end LoopContext

/-! ## The variables of a round -/

namespace LoopHeader

/-- Binds the item and the key. -/
def bindEntry (header : LoopHeader) (entry : Value × Value) (vars : Variables) : Variables :=
  let vars := Entries.insert header.item entry.2 vars
  match header.key with
  | some key => Entries.insert key entry.1 vars
  | none => vars

/-- The variables of one round: those around the loop with the item, the key and the context
bound. -/
def roundVariables (header : LoopHeader) (depth : Nat) (vars : Variables) (first last : Bool)
    (entry : Value × Value) : Variables :=
  let inner := header.bindEntry entry vars
  match header.label with
  | some label =>
      Entries.insert LoopContext.contextName
        (LoopContext.within depth label first last (vars.value LoopContext.contextName)) inner
  | none => inner

/-- The variables of all rounds: the first entry has its own flag up, and so has the last. -/
def allRounds (header : LoopHeader) (depth : Nat) (vars : Variables)
    (entries : List (Value × Value)) : List Variables :=
  entries.mapIdx fun i entry =>
    header.roundVariables depth vars (i == 0) (i + 1 == entries.length) entry

variable {header : LoopHeader}

theorem find?_bindEntry_of_binds {name : String} (h : header.Binds name) (entry : Value × Value)
    (vars others : Variables) :
    Entries.find? name (header.bindEntry entry vars) =
      Entries.find? name (header.bindEntry entry others) := by
  have hitem (vars others : Variables) (heq : name = header.item) :
      Entries.find? name (Entries.insert header.item entry.2 vars) =
        Entries.find? name (Entries.insert header.item entry.2 others) := by
    rw [heq, Entries.find?_insert_self, Entries.find?_insert_self]
  rw [bindEntry, bindEntry]
  cases hkey : header.key with
  | none =>
      rcases h with heq | heq
      · exact hitem vars others heq
      · rw [hkey] at heq
        cases heq
  | some key =>
      by_cases heq : name = key
      · rw [heq, Entries.find?_insert_self, Entries.find?_insert_self]
      · rw [Entries.find?_insert_of_ne heq, Entries.find?_insert_of_ne heq]
        refine hitem vars others (h.resolve_right ?_)
        rw [hkey]
        exact fun hsome => heq (Option.some.inj hsome).symm

theorem find?_bindEntry_of_not_binds {name : String} (h : ¬ header.Binds name)
    (entry : Value × Value) (vars : Variables) :
    Entries.find? name (header.bindEntry entry vars) = Entries.find? name vars := by
  obtain ⟨hitem, hkey⟩ := not_or.mp h
  rw [bindEntry]
  cases hsome : header.key with
  | none => exact Entries.find?_insert_of_ne hitem _ _
  | some key =>
      have hne : name ≠ key := by
        rintro rfl
        exact hkey hsome
      rw [Entries.find?_insert_of_ne hne, Entries.find?_insert_of_ne hitem]

theorem vars_bind (header : LoopHeader) (entry : Value × Value) (scope : Scope) :
    ((scope.bind header.item entry.2).bind? header.key entry.1).vars =
      header.bindEntry entry scope.vars := by
  rw [bindEntry]
  cases header.key <;> rfl

/-! ## Between two rounds -/

/-- The variables between two rounds: as around the loop but for the names that a round binds,
with a context in which nothing but the flags of the loop can have changed. -/
structure Between (header : LoopHeader) (depth : Nat) (vars current : Variables) : Prop where
  other : ∀ name, ¬ header.Binds name →
    (header.label.isSome = true → name ≠ LoopContext.contextName) →
    Entries.find? name current = Entries.find? name vars
  context : ∀ label, header.label = some label → ∃ first last,
    Entries.find? LoopContext.contextName current =
      some (LoopContext.within depth label first last (vars.value LoopContext.contextName))

theorem between_openScope (header : LoopHeader) (depth : Nat) (vars : Variables) :
    Between header depth vars (LoopContext.openScope depth header.label vars).vars := by
  cases hlabel : header.label with
  | none =>
      constructor
      · intro name _ _
        rfl
      · intro label hsome
        rw [hlabel] at hsome
        cases hsome
  | some label =>
      rw [LoopContext.vars_openScope, LoopContext.create_eq_within]
      constructor
      · intro name _ hne
        exact Entries.find?_insert_of_ne (hne (by rw [hlabel]; rfl)) _ _
      · intro other hsome
        rw [hlabel] at hsome
        cases hsome
        exact ⟨false, false, Entries.find?_insert_self _ _ _⟩

/-- What a round binds makes the variables between two rounds into those of the round. -/
theorem sameLookups_bindRound {depth : Nat} {vars : Variables} {scope : Scope}
    (hcontext : header.label.isSome = true → ¬ header.Binds LoopContext.contextName)
    (h : Between header depth vars scope.vars) (first last : Bool) (entry : Value × Value) :
    Entries.SameLookups (header.bindRound depth first last entry scope).vars
      (header.roundVariables depth vars first last entry) := by
  have hbound (name : String)
      (hname : header.label.isSome = true → name ≠ LoopContext.contextName) :
      Entries.find? name (header.bindEntry entry scope.vars) =
        Entries.find? name (header.bindEntry entry vars) := by
    by_cases hbinds : header.Binds name
    · exact find?_bindEntry_of_binds hbinds entry scope.vars vars
    · rw [find?_bindEntry_of_not_binds hbinds, find?_bindEntry_of_not_binds hbinds]
      exact h.other name hbinds hname
  intro name
  rw [bindRound, roundVariables]
  cases hlabel : header.label with
  | none =>
      rw [LoopContext.updateScope, vars_bind]
      exact hbound name fun hsome => by simp [hlabel] at hsome
  | some label =>
      have hsome : header.label.isSome = true := by rw [hlabel]; rfl
      rw [LoopContext.vars_updateScope, vars_bind]
      by_cases hname : name = LoopContext.contextName
      · obtain ⟨one, other, hfind⟩ := h.context label hlabel
        rw [hname, Entries.find?_modify_self, Entries.find?_insert_self,
          find?_bindEntry_of_not_binds (hcontext hsome), hfind, Option.map_some,
          LoopContext.setFlags_within]
      · rw [Entries.find?_modify_of_ne hname, Entries.find?_insert_of_ne hname]
        exact hbound name fun _ => hname

/-- The variables of a round can stand between two rounds. -/
theorem between_of_sameLookups {depth : Nat} {vars current : Variables} {first last : Bool}
    {entry : Value × Value}
    (h : Entries.SameLookups current (header.roundVariables depth vars first last entry)) :
    Between header depth vars current := by
  constructor
  · intro name hbinds hname
    rw [h name, roundVariables]
    cases hlabel : header.label with
    | none => exact find?_bindEntry_of_not_binds hbinds entry vars
    | some label =>
        have hne := hname (by rw [hlabel]; rfl)
        rw [Entries.find?_insert_of_ne hne]
        exact find?_bindEntry_of_not_binds hbinds entry vars
  · intro label hlabel
    refine ⟨first, last, ?_⟩
    rw [h LoopContext.contextName, roundVariables, hlabel]
    exact Entries.find?_insert_self _ _ _

/-! ## Rounds in turn -/

variable {σ : Type}

/-- Renders a body in several variables, one after the other.  Only the state of the host is
handed on. -/
def inTurn (body : Surroundings σ → String × Surroundings σ) :
    List Variables → σ → List String × σ
  | [], host => ([], host)
  | vars :: rest, host =>
      let result := body ⟨vars, host⟩
      let further := inTurn body rest result.2.host
      (result.1 :: further.1, further.2)

/-- The variables of the rounds from one on. -/
def roundsFrom (header : LoopHeader) (depth : Nat) (vars : Variables) :
    Bool → List (Value × Value) → List Variables
  | _, [] => []
  | first, entry :: rest =>
      header.roundVariables depth vars first rest.isEmpty entry ::
        header.roundsFrom depth vars false rest

theorem roundsFrom_eq_mapIdx (header : LoopHeader) (depth : Nat) (vars : Variables) (first : Bool)
    (entries : List (Value × Value)) :
    header.roundsFrom depth vars first entries =
      entries.mapIdx fun i entry =>
        header.roundVariables depth vars (first && i == 0) (i + 1 == entries.length) entry := by
  induction entries generalizing first with
  | nil => rfl
  | cons entry rest ih =>
      have hlast : rest.isEmpty = (0 + 1 == (entry :: rest).length) := by
        cases rest <;> rfl
      rw [roundsFrom, ih, List.mapIdx_cons, hlast]
      simp

theorem roundsFrom_true (header : LoopHeader) (depth : Nat) (vars : Variables)
    (entries : List (Value × Value)) :
    header.roundsFrom depth vars true entries = header.allRounds depth vars entries := by
  rw [roundsFrom_eq_mapIdx, allRounds]
  simp only [Bool.true_and]

/-- Rounds in one scope put out what the rounds do each in variables of its own. -/
theorem rounds_eq_inTurn {depth : Nat} {vars : Variables}
    {body : Surroundings σ → String × Surroundings σ}
    (hcontext : header.label.isSome = true → ¬ header.Binds LoopContext.contextName)
    (hrestores : ∀ state, Entries.SameLookups (body state).2.vars state.vars)
    (hbody : ∀ {vars others : Variables} (host : σ), Entries.SameLookups vars others →
      (body ⟨vars, host⟩).1 = (body ⟨others, host⟩).1 ∧
        (body ⟨vars, host⟩).2.host = (body ⟨others, host⟩).2.host)
    (entries : List (Value × Value)) (first : Bool) {scope : Scope} (host : σ)
    (h : Between header depth vars scope.vars) :
    (header.rounds depth body first entries scope host).1 =
        String.join (inTurn body (header.roundsFrom depth vars first entries) host).1 ∧
      (header.rounds depth body first entries scope host).2.2 =
        (inTurn body (header.roundsFrom depth vars first entries) host).2 := by
  induction entries generalizing first scope host with
  | nil => exact ⟨String.join_nil.symm, rfl⟩
  | cons entry rest ih =>
      have hround := sameLookups_bindRound hcontext h first rest.isEmpty entry
      obtain ⟨htext, hhost⟩ := hbody host hround
      have hafter := (hrestores
        ⟨(header.bindRound depth first rest.isEmpty entry scope).vars, host⟩).trans hround
      obtain ⟨hrest, hlast⟩ := @ih false
        { header.bindRound depth first rest.isEmpty entry scope with vars := _ }
        (body ⟨(header.bindRound depth first rest.isEmpty entry scope).vars, host⟩).2.host
        (between_of_sameLookups hafter)
      simp only [rounds, roundsFrom, inTurn]
      rw [← hhost, ← htext, String.join_cons]
      exact ⟨by rw [hrest], hlast⟩

end LoopHeader

variable {σ : Type}

/-- Variables with the same values under all names are the same to a block. -/
theorem Node.renderAll_of_sameLookups (registry : Registry σ) (nodes : List Node) (depth : Nat)
    {vars others : Variables} (host : σ) (h : Entries.SameLookups vars others) :
    (Node.renderAll registry nodes depth ⟨vars, host⟩).1 =
        (Node.renderAll registry nodes depth ⟨others, host⟩).1 ∧
      (Node.renderAll registry nodes depth ⟨vars, host⟩).2.host =
        (Node.renderAll registry nodes depth ⟨others, host⟩).2.host := by
  refine Node.renderAll_congr registry.respects_eq nodes depth host (fun _ _ => trivial) ?_
  intro name _
  exact Variables.value_of_sameLookups h name

theorem LoopHeader.run_of_ne_nil {registry : Registry σ} {header : LoopHeader} {depth : Nat}
    {body : Surroundings σ → String × Surroundings σ}
    {ifEmpty : Surroundings σ → Value × Surroundings σ} {state : Surroundings σ}
    (h : (header.source.eval registry state.vars state.host).1.iteration ≠ []) :
    header.run registry depth body ifEmpty state =
      let source := header.source.eval registry state.vars state.host
      let result := header.rounds depth body true source.1.iteration
        (LoopContext.openScope depth header.label state.vars) source.2
      (if result.1.isEmpty then .null else .string result.1, ⟨result.2.1.close, result.2.2⟩) := by
  rw [run]
  split
  · rename_i hnil
    exact absurd hnil h
  · rfl

theorem LoopHeader.run_of_nil {registry : Registry σ} {header : LoopHeader} {depth : Nat}
    {body : Surroundings σ → String × Surroundings σ}
    {ifEmpty : Surroundings σ → Value × Surroundings σ} {state : Surroundings σ}
    (h : (header.source.eval registry state.vars state.host).1.iteration = []) :
    header.run registry depth body ifEmpty state =
      ifEmpty { state with host := (header.source.eval registry state.vars state.host).2 } := by
  rw [run, h]

/-- What a loop does with and without a block for no entries. -/
theorem Node.eval_loop_eq_run (registry : Registry σ) (header : LoopHeader) (body : List Node)
    (ifEmpty : Option (List Node)) (depth : Nat) (state : Surroundings σ) :
    (Node.loop header body ifEmpty).eval registry depth state =
      header.run registry depth (Node.renderAll registry body (depth + 1))
        (fun state => ifEmpty.elim (.null, state) fun nodes =>
          blockValue (Node.renderAll registry nodes depth state)) state := by
  cases ifEmpty <;> rfl

/-- A loop goes through an array with its positions and through a map in the order of the bytes
of its names.  If there are entries, it puts out what its body does in variables made for each
round alone; if there are none, what stands in for it. -/
theorem Node.eval_loop_eq_inTurn (registry : Registry σ) (header : LoopHeader) (body : List Node)
    (ifEmpty : Option (List Node)) (depth : Nat) (state : Surroundings σ)
    (hcontext : header.label.isSome = true → ¬ header.Binds LoopContext.contextName) :
    let source := header.source.eval registry state.vars state.host
    let entries := source.1.iteration
    let outcome := (Node.loop header body ifEmpty).eval registry depth state
    let inPlace := fun nodes => Node.renderAll registry nodes depth ⟨state.vars, source.2⟩
    let rounds := LoopHeader.inTurn (Node.renderAll registry body (depth + 1))
      (header.allRounds depth state.vars entries) source.2
    (∀ identity items, source.1.unwrapped = .array identity items →
        entries = items.mapIdx fun i item => (.number (Number.ofNat i), item)) ∧
      (∀ identity fields, source.1.unwrapped = .map identity fields →
        entries = fields.map (fun field => (.string field.1, field.2)) ∧
          (registry.KeepsOrder → Variables.Ordered state.vars →
            (fields.map fun field => Text.bytes field.1).Pairwise (· < ·))) ∧
      ((∀ identity items, source.1.unwrapped ≠ .array identity items) →
        (∀ identity fields, source.1.unwrapped ≠ .map identity fields) → entries = []) ∧
      (entries = [] →
        outcome.1 = (ifEmpty.elim .null fun nodes => .string (inPlace nodes).1) ∧
          outcome.2.host = ifEmpty.elim source.2 fun nodes => (inPlace nodes).2.host) ∧
      (entries ≠ [] →
        outcome.1 =
            (if (String.join rounds.1).isEmpty then .null else .string (String.join rounds.1)) ∧
          outcome.2.host = rounds.2) := by
  intro source entries outcome inPlace rounds
  have houtcome : outcome = _ := Node.eval_loop_eq_run registry header body ifEmpty depth state
  refine ⟨?_, ?_, Value.iteration_of_other, ?_, ?_⟩
  · intro identity items h
    exact Value.iteration_of_array h
  · intro identity fields h
    refine ⟨Value.iteration_of_map h, ?_⟩
    intro hregistry hvars
    have hordered := Expr.ordered_eval hregistry hvars header.source state.host
    exact Value.pairwise_bytes_of_ordered hordered h
  · intro hnil
    rw [houtcome, LoopHeader.run_of_nil hnil]
    cases ifEmpty <;> exact ⟨rfl, rfl⟩
  · intro hne
    obtain ⟨htext, hhost⟩ := LoopHeader.rounds_eq_inTurn hcontext
      (Node.sameLookups_renderAll registry body (depth + 1))
      (fun host h => Node.renderAll_of_sameLookups registry body (depth + 1) host h)
      entries true source.2 (LoopHeader.between_openScope header depth state.vars)
    rw [LoopHeader.roundsFrom_true] at htext hhost
    rw [houtcome, LoopHeader.run_of_ne_nil hne]
    refine ⟨?_, hhost⟩
    change (if (header.rounds depth _ true entries _ source.2).1.isEmpty then _ else _) = _
    rw [htext]

/-- Two rows of a map parted by a comma: the body asks for the flags of the loop. -/
theorem Node.eval_loop_eq_inTurn_rows :
    let header : LoopHeader := ⟨.variable "rows", "row", some "place", some "table"⟩
    let flags := Expr.field (.field (.variable "smarty") "foreach") "table"
    let body :=
      [Node.action (.variable "row"),
        .conditional (.field flags "last") [] (.block [.text ", "])]
    let rows := [("first", Value.string "a"), ("second", .string "b")]
    let state : Surroundings Unit := ⟨[("rows", .map (.host [0]) rows)], ()⟩
    let rounds := LoopHeader.inTurn (Node.renderAll Registry.builtin body 1)
      (header.allRounds 0 state.vars (rows.map fun field => (.string field.1, field.2))) ()
    (header.label.isSome = true → ¬ header.Binds LoopContext.contextName) ∧
      (rows.map fun field => Text.bytes field.1).Pairwise (· < ·) ∧
      rounds.1 = ["a, ", "b"] ∧
      ((Node.loop header body none).eval Registry.builtin 0 state).1 =
        .string (String.join rounds.1) := by
  intro header flags body rows state rounds
  have hcontext : header.label.isSome = true → ¬ header.Binds LoopContext.contextName := by
    intro _
    decide
  have hvars : Variables.Ordered state.vars := by
    refine List.forall_mem_singleton.mpr (.map _ ?_ ?_)
    · exact List.pairwise_pair.mpr (by decide)
    · simp only [rows, List.forall_mem_cons]
      exact ⟨.string "a", .string "b", nofun⟩
  have hrounds : rounds.1 = ["a, ", "b"] := by
    simp only [rounds, rows, state, body, flags, header]
    decide +kernel
  obtain ⟨-, hmap, -, -, hrun⟩ :=
    Node.eval_loop_eq_inTurn Registry.builtin header body none 0 state hcontext
  obtain ⟨hentries, hbytes⟩ := hmap (.host [0]) rows rfl
  refine ⟨hcontext, hbytes Registry.keepsOrder_builtin hvars, hrounds, ?_⟩
  obtain ⟨hvalue, -⟩ := hrun (by rw [hentries]; exact List.cons_ne_nil _ _)
  rw [hentries] at hvalue
  rw [hvalue]
  exact if_neg (by rw [hrounds]; decide)

end Stencil
