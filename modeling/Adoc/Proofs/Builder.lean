import Adoc.Proofs.Built

/-! # Trees built from tokens lose nothing

The builder makes trees from tokens on a stack. Whatever the steps of a run put together, the tokens
stay what they were and keep their order; so two runs over the same tokens make trees of the same
text, and of the same span if the tokens follow each other in a document. A program that stops at
ends which are no offsets makes the same trees, as far as it gets, and gets to the end of a run over
such tokens.

* `runAll_append`         a run goes on from where the run before it ended
* `built_iff_exists_run`  the builder makes every tree of tokens and composite nodes, and no other
* `leaves_runAll`         grouping keeps the tokens in their order
* `runAll?_eq_some`       what a program makes is what the run makes
* `runAll?_of_fits`       it does not stop over tokens that follow each other in a document -/

namespace Adoc

namespace BuildStep

/-- The token that a step pushes. -/
def token? : BuildStep → Option Node
  | .push kind start text => some (.token kind start text)
  | .wrap _ _ => none

/-- The tokens that are pushed, in their order. -/
def tokens (steps : List BuildStep) : List Node := steps.filterMap token?

/-- Does the step make a composite node only if there are nodes to put into it? -/
def groupsSome (stack : BuildStack) : BuildStep → Bool
  | .push _ _ _ => true
  | .wrap _ count => !(stack.take count).isEmpty

/-- Do all steps of a run do so? -/
def allGroupSome : BuildStack → List BuildStep → Bool
  | _, [] => true
  | stack, step :: steps => groupsSome stack step && allGroupSome (step.run stack) steps

/-- A run in two parts: the second starts with the stack that the first one left. -/
theorem runAll_append (stack : BuildStack) (steps steps' : List BuildStep) :
    runAll stack (steps ++ steps') = runAll (runAll stack steps) steps' :=
  List.foldl_append

/-! ### What is built -/

/-- A step puts nothing on the stack but what is built from what was there. -/
private theorem built_run {stack : BuildStack} (h : ∀ n ∈ stack, n.Built) (step : BuildStep) :
    ∀ n ∈ step.run stack, n.Built := by
  cases step with
  | push kind start text => exact List.forall_mem_cons.mpr ⟨.token kind start text, h⟩
  | wrap kind count =>
    refine List.forall_mem_cons.mpr ⟨.ofChildren kind ?_, ?_⟩
    · exact fun c hc => h c (List.mem_of_mem_take (List.mem_reverse.mp hc))
    · exact fun n hn => h n (List.mem_of_mem_drop hn)

/-- A run over a stack of built nodes leaves built nodes. -/
private theorem built_runAll {stack : BuildStack} (h : ∀ n ∈ stack, n.Built)
    (steps : List BuildStep) : ∀ n ∈ runAll stack steps, n.Built := by
  induction steps generalizing stack with
  | nil => exact h
  | cons step steps ih => exact ih (built_run h step)

/-- All that a run leaves on an empty stack is built. -/
theorem built_of_mem_runAll {steps : List BuildStep} {n : Node} (h : n ∈ runAll [] steps) :
    n.Built :=
  built_runAll (List.forall_mem_nil _) steps n h

/-- Steps that put nodes on any stack, one after the other. -/
private theorem exists_run_reverse {cs : List Node}
    (h : ∀ c ∈ cs, ∃ steps, ∀ stack, runAll stack steps = c :: stack) :
    ∃ steps, ∀ stack, runAll stack steps = cs.reverse ++ stack := by
  induction cs with
  | nil => exact ⟨[], fun _ => rfl⟩
  | cons c cs ih =>
    obtain ⟨first, hfirst⟩ := h c List.mem_cons_self
    obtain ⟨rest, hrest⟩ := ih fun d hd => h d (List.mem_cons_of_mem c hd)
    refine ⟨first ++ rest, fun stack => ?_⟩
    rw [runAll_append, hfirst, hrest, List.reverse_cons, List.append_assoc, List.singleton_append]

/-- Steps that put a built node on any stack. -/
private theorem exists_run_of_built {n : Node} (h : n.Built) :
    ∃ steps, ∀ stack, runAll stack steps = n :: stack := by
  induction h with
  | token kind start text => exact ⟨[.push kind start text], fun _ => rfl⟩
  | @ofChildren kind children h ih =>
    -- make the children one by one, and wrap as many as there are
    obtain ⟨steps, hsteps⟩ := exists_run_reverse ih
    refine ⟨steps ++ [.wrap kind children.length], fun stack => ?_⟩
    rw [runAll_append, hsteps, ← List.length_reverse]
    show Node.ofChildren kind (List.take _ _).reverse :: List.drop _ _ = _
    rw [List.take_left, List.drop_left, List.reverse_reverse]

/-- The builder makes every node that is built from tokens and composite nodes, and no other. -/
theorem built_iff_exists_run {n : Node} : n.Built ↔ ∃ steps, runAll [] steps = [n] := by
  constructor
  · intro h
    obtain ⟨steps, hsteps⟩ := exists_run_of_built h
    exact ⟨steps, hsteps []⟩
  · intro h
    obtain ⟨steps, hsteps⟩ := h
    exact built_of_mem_runAll (hsteps ▸ List.mem_cons_self)

/-! ### What a run keeps -/

section

variable {α : Type} {f : Node → List α}
  (group : ∀ kind cs, cs ≠ [] → f (.ofChildren kind cs) = cs.flatMap f)

include group

/-- If a function finds in a node what it finds in the children, then it finds in the stack after a
step what was there before, and behind it what is in the token that was pushed. -/
private theorem flatMap_run {stack : BuildStack} {step : BuildStep}
    (empty : groupsSome stack step = true ∨ ∀ kind, f (.ofChildren kind []) = []) :
    (step.run stack).reverse.flatMap f =
      stack.reverse.flatMap f ++ step.token?.toList.flatMap f := by
  cases step with
  | push kind start text =>
    rw [run, List.reverse_cons, List.flatMap_append]
    rfl
  | wrap kind count =>
    -- the new node is for `f` the nodes that it took from the stack
    have taken : f (.ofChildren kind (stack.take count).reverse) =
        (stack.take count).reverse.flatMap f := by
      by_cases none : stack.take count = []
      · obtain some | empty := empty
        · simp [groupsSome, none] at some
        · rw [none]
          exact empty kind
      · exact group kind _ (List.reverse_eq_nil_iff.not.mpr none)
    rw [run, List.reverse_cons, List.flatMap_append, List.flatMap_singleton, taken,
      ← List.flatMap_append, ← List.reverse_append, List.take_append_drop]
    exact (List.append_nil _).symm

/-- After a run such a function finds what was there before, and behind it what is in the tokens, in
their order. -/
private theorem flatMap_runAll {stack : BuildStack} {steps : List BuildStep}
    (empty : allGroupSome stack steps = true ∨ ∀ kind, f (.ofChildren kind []) = []) :
    (runAll stack steps).reverse.flatMap f =
      stack.reverse.flatMap f ++ (tokens steps).flatMap f := by
  induction steps generalizing stack with
  | nil => exact (List.append_nil _).symm
  | cons step steps ih =>
    have pushed : tokens (step :: steps) = step.token?.toList ++ tokens steps := by
      rw [tokens, List.filterMap_cons]
      cases step <;> rfl
    -- no group is empty in the first step nor in the rest of the run
    rw [allGroupSome, Bool.and_eq_true, and_or_right] at empty
    have rest : (runAll stack (step :: steps)).reverse.flatMap f = _ := ih empty.2
    rw [rest, flatMap_run group empty.1, pushed, List.flatMap_append, List.append_assoc]

end

/-- Grouping keeps the texts of the tokens in their order. -/
theorem join_text_runAll (steps : List BuildStep) :
    String.join ((runAll [] steps).reverse.map (·.text)) =
      String.join ((tokens steps).map (·.text)) := by
  -- a composite node has the texts of its children, even if it has none
  have group (kind : Kind) (cs : List Node) :
      (Node.ofChildren kind cs).text.toList = cs.flatMap (·.text.toList) := by
    rw [Node.ofChildren, String.toList_join, List.flatMap_map]
  have kept : (runAll [] steps).reverse.flatMap (·.text.toList) =
      (tokens steps).flatMap (·.text.toList) :=
    flatMap_runAll (fun kind cs _ => group kind cs) (.inr fun kind => group kind [])
  rw [← String.toList_inj, String.toList_join, String.toList_join, List.flatMap_map,
    List.flatMap_map]
  exact kept

/-- If there is something in every group, the leaves of what is built are the tokens in their
order. -/
theorem leaves_runAll {steps : List BuildStep} (h : allGroupSome [] steps = true) :
    (runAll [] steps).reverse.flatMap Node.leaves = tokens steps := by
  -- a token has itself for its only leaf
  have leaf : ∀ n ∈ tokens steps, n.leaves = [n] := by
    intro n hn
    obtain ⟨step, _, pushed⟩ := List.mem_filterMap.mp hn
    cases step with
    | push kind start text =>
      obtain rfl := Option.some.inj pushed
      rfl
    | wrap => exact nomatch pushed
  rw [flatMap_runAll (fun kind cs => Node.leaves_ofChildren kind) (.inl h),
    List.flatMap_congr leaf, List.flatMap_singleton']
  rfl

/-! ### Runs of a program -/

variable {o : Overflow} {stack stack' : BuildStack}

/-- What a step of a program leaves is what the step leaves. -/
theorem run?_eq_some {step : BuildStep} (h : run? o stack step = some stack') :
    stack' = run stack step := by
  cases step with
  | push kind start text => exact (Option.some.inj h).symm
  | wrap kind count =>
    obtain ⟨n, made, rfl⟩ := Option.map_eq_some_iff.mp h
    rw [Node.ofChildren?] at made
    split at made
    · exact nomatch made
    · rw [run, ← Option.some.inj made]

/-- What a run of a program leaves, if it gets through, is what the run leaves. -/
theorem runAll?_eq_some {steps : List BuildStep} (h : runAll? o stack steps = some stack') :
    stack' = runAll stack steps := by
  induction steps generalizing stack with
  | nil => exact (Option.some.inj h).symm
  | cons step steps ih =>
    obtain ⟨next, first, rest⟩ := Option.bind_eq_some_iff.mp h
    obtain rfl := run?_eq_some first
    exact ih rest

/-- A program that does not stop at sums gets to the end of every run. -/
theorem runAll?_wrap (stack : BuildStack) (steps : List BuildStep) :
    runAll? .wrap stack steps = some (runAll stack steps) := by
  induction steps generalizing stack with
  | nil => rfl
  | cons step steps ih =>
    have first : run? .wrap stack step = some (run stack step) := by
      cases step <;> simp [run?, run, Node.ofChildren?]
    rw [runAll?, List.foldlM_cons, first]
    exact ih (run stack step)

/-- A program does not stop at a step if all nodes on the stack end at offsets. -/
theorem run?_of_fits (fits : ∀ n ∈ stack, n.span.stop < offsetLimit) (step : BuildStep) :
    run? o stack step = some (run stack step) := by
  cases step with
  | push kind start text => rfl
  | wrap kind count =>
    have inside : ¬(o = .stop ∧
        (stack.take count).reverse.getLast?.any (offsetLimit ≤ ·.span.stop) = true) := by
      rintro ⟨-, large⟩
      obtain ⟨last, hl, large⟩ := (Option.any_eq_true _ _).mp large
      have taken := List.mem_reverse.mp (List.mem_of_getLast? hl)
      -- the last of the nodes taken was on the stack, and ends at an offset
      have fits := fits last (List.mem_of_mem_take taken)
      rw [decide_eq_true_eq] at large
      omega
    rw [run?, Node.ofChildren?, if_neg inside, Option.map_some, run]

/-- No step of a run makes an empty group if none does in either part of it. -/
theorem allGroupSome_append (stack : BuildStack) (steps steps' : List BuildStep) :
    allGroupSome stack (steps ++ steps') =
      (allGroupSome stack steps && allGroupSome (runAll stack steps) steps') := by
  induction steps generalizing stack with
  | nil => rfl
  | cons step steps ih =>
    rw [List.cons_append, allGroupSome, allGroupSome, ih, Bool.and_assoc]
    rfl

/-- The trees that are built over tokens of a document agree with them. -/
theorem exact_of_mem_runAll {steps : List BuildStep} (some : allGroupSome [] steps = true)
    (contiguous : Node.Contiguous (tokens steps))
    (fits : ∀ n ∈ tokens steps, n.span.stop < offsetLimit) {tree : Node}
    (ht : tree ∈ runAll [] steps) {n : Site} (hn : n ∈ (Site.root tree).preorder) :
    n.node.Exact := by
  have built : n.node.Built := (built_of_mem_runAll ht).of_mem_preorder (s := .root tree) hn
  -- the leaves of a node are a stretch of the tokens, and so follow each other too
  have all : tree.leaves <:+: tokens steps :=
    leaves_runAll some ▸ List.infix_flatMap_of_mem (List.mem_reverse.mpr ht) Node.leaves
  exact built.exact_of_isInfix ((Node.leaves_isInfix_of_mem_preorder hn).trans all) contiguous fits

/-- A program does not stop in a run over tokens that follow each other in a document. -/
theorem runAll?_of_fits {steps : List BuildStep} (some : allGroupSome [] steps = true)
    (contiguous : Node.Contiguous (tokens steps))
    (fits : ∀ n ∈ tokens steps, n.span.stop < offsetLimit) :
    runAll? o [] steps = .some (runAll [] steps) := by
  induction steps using List.reverseRecOn with
  | nil => rfl
  | append_singleton steps step ih =>
    rw [allGroupSome_append, Bool.and_eq_true] at some
    rw [tokens, List.filterMap_append] at contiguous fits
    have before := contiguous.left_of_append
    have fits : ∀ n ∈ tokens steps, n.span.stop < offsetLimit :=
      fun n hn => fits n (List.mem_append_left _ hn)
    -- so far every node agrees with its tokens, and ends where one of them does
    have ends : ∀ n ∈ runAll [] steps, n.span.stop < offsetLimit := fun n hn =>
      (exact_of_mem_runAll some.1 before fits hn (Site.mem_preorder_self (.root n))).fits
    rw [runAll?, List.foldlM_append]
    have first : List.foldlM (run? o) [] steps = _ := ih some.1 before fits
    rw [first, runAll_append]
    show run? o (runAll [] steps) step >>= pure = _
    rw [run?_of_fits ends, bind_pure]
    rfl

/-- The span and the text of a single tree are determined by its tokens, if they follow each
other. -/
private theorem eq_of_tokens_eq {steps steps' : List BuildStep} {tree tree' : Node}
    (some : allGroupSome [] steps = true) (some' : allGroupSome [] steps' = true)
    (same : tokens steps' = tokens steps) (contiguous : Node.Contiguous (tokens steps))
    (fits : ∀ n ∈ tokens steps, n.span.stop < offsetLimit)
    (run : runAll [] steps = [tree]) (run' : runAll [] steps' = [tree']) :
    tree'.span = tree.span ∧ tree'.text = tree.text := by
  have built : tree.Built := built_iff_exists_run.mpr ⟨steps, run⟩
  have built' : tree'.Built := built_iff_exists_run.mpr ⟨steps', run'⟩
  -- both trees have the tokens for their leaves, and those tile one stretch of the document
  have leaves : tree.leaves = tokens steps := by
    simpa [run] using leaves_runAll some
  have leaves' : tree'.leaves = tokens steps := by
    simpa [run', same] using leaves_runAll some'
  obtain ⟨first, stop, fits, tile⟩ := contiguous.exists_tile fits
  constructor
  · obtain ⟨start, stop⟩ := built.span_of_tile fits (leaves ▸ tile)
    obtain ⟨start', stop'⟩ := built'.span_of_tile fits (leaves' ▸ tile)
    exact Span.eq_of_start_of_stop (start'.trans start.symm) (stop'.trans stop.symm)
  · rw [built.text_eq, built'.text_eq, leaves, leaves']

/-- Trees built from tokens lose nothing, however the tokens are grouped. After any pushing of
tokens and wrapping of nodes that a program gets through, the text of every node is that of the
leaves below it, and all trees together have the text of all tokens in their order; a program that
does not stop at sums gets through all of them. If also the tokens follow each other, all of them
end at offsets and no composite node is made without children, then any program gets through, every
node starts at its first token and is as long as its text, the children of a composite node tile its
span, of which the end is never before the start, and two groupings of the same tokens into one tree
give it the same span and text. -/
theorem lossless_however_grouped (o : Overflow) (steps : List BuildStep) :
    (∀ stack, runAll? o [] steps = some stack →
      (∀ tree ∈ stack, ∀ n ∈ (Site.root tree).preorder,
        n.node.text = String.join (n.node.leaves.map (·.text))) ∧
      String.join (stack.reverse.map (·.text)) = String.join ((tokens steps).map (·.text))) ∧
    (∃ stack, runAll? .wrap [] steps = some stack) ∧
    (allGroupSome [] steps = true → Node.Contiguous (tokens steps) →
      (∀ n ∈ tokens steps, n.span.stop < offsetLimit) →
      ∃ stack, runAll? o [] steps = some stack ∧
        stack.reverse.flatMap Node.leaves = tokens steps ∧
        (∀ tree ∈ stack, ∀ n ∈ (Site.root tree).preorder, n.node.Exact) ∧
        ∀ steps' tree tree', allGroupSome [] steps' = true → tokens steps' = tokens steps →
          runAll? o [] steps = some [tree] → runAll? o [] steps' = some [tree'] →
            tree'.span = tree.span ∧ tree'.text = tree.text) := by
  refine ⟨?text, ⟨_, runAll?_wrap [] steps⟩, fun some contiguous fits =>
    ⟨_, runAll?_of_fits some contiguous fits, leaves_runAll some,
      fun tree ht n hn => exact_of_mem_runAll some contiguous fits ht hn, ?same⟩⟩
  case text =>
    intro stack run
    obtain rfl := runAll?_eq_some run
    refine ⟨?_, join_text_runAll steps⟩
    intro tree ht n hn
    exact ((built_of_mem_runAll ht).of_mem_preorder (s := .root tree) hn).text_eq
  case same =>
    intro steps' tree tree' some' same run run'
    exact eq_of_tokens_eq some some' same contiguous fits (runAll?_eq_some run).symm
      (runAll?_eq_some run').symm

/-- A heading with text beyond ASCII, a line end and a block with an empty text. -/
private def nested : List BuildStep :=
  [.push .heading 10 "= Ä", .push .newline 14 "\n", .push .text 15 "", .push .text 15 "b",
    .wrap .block 2, .wrap .section 3]

/-- The same tokens without the block. -/
private def flat : List BuildStep :=
  [.push .heading 10 "= Ä", .push .newline 14 "\n", .push .text 15 "", .push .text 15 "b",
    .wrap .section 4]

/-- With or without the block the section takes the same bytes. -/
theorem nested_as_flat :
    allGroupSome [] nested = true ∧ allGroupSome [] flat = true ∧ tokens flat = tokens nested ∧
    Node.Contiguous (tokens nested) ∧ (∀ n ∈ tokens nested, n.span.stop < offsetLimit) ∧
    ∃ tree tree', runAll? .stop [] nested = some [tree] ∧ runAll? .stop [] flat = some [tree'] ∧
      tree.Exact ∧ tree ≠ tree' ∧ tree'.span = tree.span ∧ tree'.text = tree.text ∧
      tree.text = String.join (tree.leaves.map (·.text)) := by
  have contiguous : Node.Contiguous (tokens nested) := by decide
  have fits : ∀ n ∈ tokens nested, n.span.stop < offsetLimit := by decide
  have lossless := lossless_however_grouped .stop nested
  obtain ⟨stack, run, _, exact, same⟩ := lossless.2.2 rfl contiguous fits
  obtain rfl := Option.some.inj run
  refine ⟨rfl, rfl, rfl, contiguous, fits, _, _, rfl, rfl, ?_, by decide, ?_, ?_, ?_⟩
  · exact exact _ List.mem_cons_self _ (Site.mem_preorder_self _)
  · exact (same flat _ _ rfl rfl rfl rfl).1
  · exact (same flat _ _ rfl rfl rfl rfl).2
  · exact (lossless.1 _ rfl).1 _ List.mem_cons_self _ (Site.mem_preorder_self _)

/-- The end of a token beyond 64 bits: a program that stops builds nothing over it, and another one
takes the node to be empty. -/
example :
    runAll? .stop [] [.push .text (offsetLimit - 1) "ab", .wrap .block 1] = none ∧
      ((runAll? .wrap [] [.push .text (offsetLimit - 1) "ab", .wrap .block 1]).map
        fun stack => stack.map (·.span)) = some [⟨offsetLimit - 1, 0⟩] := by decide

end BuildStep

end Adoc
