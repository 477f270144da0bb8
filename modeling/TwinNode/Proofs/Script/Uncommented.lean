import TwinNode.Proofs.Script.Continued

/-! When the comments of a script are blanked, it is cut into the same segments as before,
but for the blanks that stand where the comments were. So blanking comments a second time
changes nothing, and the skeleton is that of the script. -/

namespace TwinNode.Script

/-- What is left of a segment when comments are blanked: a comment is as many single characters. -/
def Segment.uncommented : Segment → List Segment
  | comment text => text.map fun c => .plain (blank c)
  | s => [s]

namespace Segment

theorem uncommented_code (s : Segment) : s.uncommented.flatMap code = s.code := by
  cases s with
  | comment text => simp [uncommented, code, List.flatMap_map, ← List.map_eq_flatMap]
  | plain | literal => simp [uncommented]

theorem uncommented_skeleton (s : Segment) : s.uncommented.flatMap skeleton = s.skeleton := by
  cases s with
  | comment text => simp [uncommented, skeleton, List.flatMap_map, ← List.map_eq_flatMap]
  | plain | literal => simp [uncommented]

end Segment

/-- Blanks are cut into single characters. -/
theorem segments_blanks (before text rest : List Char) : segments before (text.map blank ++ rest) =
    (text.map fun c => .plain (blank c)) ++ segments ((text.map blank).reverse ++ before) rest := by
  induction text generalizing before with
  | nil => rfl
  | cons c text ih =>
    have hplain : ¬Delimits (blank c) := fun hd => hd.ne_blank c rfl
    rw [List.map_cons, List.cons_append, segments, next_plain hplain]
    dsimp only
    rw [ih]
    simp [Segment.skeleton]

/-- A segment that is cut off first is cut so again when its comment is blanked. -/
theorem segments_uncommented {before rest : List Char} {s : Segment} (h : CutFirst before s rest) :
    segments before (s.code ++ rest) = s.uncommented ++
      segments (s.skeleton.reverse ++ before) rest := by
  cases s with
  | comment text => exact segments_blanks before text rest
  | plain | literal => exact segments_cutFirst h

/-- A script with blanked comments has the segments of the script, and blanks for the comments. -/
theorem segments_code (before text : List Char) :
    segments before ((segments before text).flatMap Segment.code) =
      (segments before text).flatMap Segment.uncommented := by
  fun_induction segments before text with
  | case1 before => simp [segments]
  | case2 before c cs step ih =>
    have hmask :
        MaskOf ((segments (step.1.skeleton.reverse ++ before) step.2).flatMap Segment.code)
          step.2 := by
      conv => rhs; rw [← segments_source (step.1.skeleton.reverse ++ before) step.2]
      exact MaskOf.flatMap fun s _ => code_maskOf_source s
    rw [List.flatMap_cons, List.flatMap_cons, segments_uncommented
      (next_cutFirst (.of_mask hmask)), ih]

theorem code_code (text : List Char) : code (code text) = code text := by
  unfold code
  rw [segments_code, List.flatMap_assoc]
  exact congrArg (List.flatMap · _) (funext Segment.uncommented_code)

theorem skeleton_code (text : List Char) : skeleton (code text) = skeleton text := by
  unfold skeleton code
  rw [segments_code, List.flatMap_assoc]
  exact congrArg (List.flatMap · _) (funext Segment.uncommented_skeleton)

end TwinNode.Script
