/-!
# Parenthesized parts of a label

A parenthesized part runs from an opening parenthesis through the next closing one. An opening
parenthesis inside a part does not open another, and one that nothing closes opens none.

## Main definitions

* `Label.dropParts`: a text without its parenthesized parts, read from inside or outside of one.
* `Label.withoutParentheses`: a label without its parenthesized parts.
-/

namespace SensorCatalog.Label

/-- A text without its parenthesized parts; `inside` says that the text starts within one. -/
def dropParts (inside : Bool) : List Char → List Char
  | [] => []
  | c :: rest =>
    if inside then dropParts (c != ')') rest
    else if c = '(' ∧ ')' ∈ rest then dropParts true rest
    else c :: dropParts false rest

/-- A label without its parenthesized parts. -/
def withoutParentheses (label : String) : String :=
  String.ofList (dropParts false label.toList)

@[simp] theorem dropParts_nil (inside : Bool) : dropParts inside [] = [] := rfl

/-- A text without an opening parenthesis has no parenthesized part. -/
theorem dropParts_of_not_mem {cs : List Char} (h : '(' ∉ cs) : dropParts false cs = cs := by
  induction cs with
  | nil => rfl
  | cons c rest ih =>
    have hc : c ≠ '(' := fun e => h (e ▸ List.mem_cons_self)
    simp [dropParts, hc, ih (fun hm => h (List.mem_cons_of_mem _ hm))]

end SensorCatalog.Label
