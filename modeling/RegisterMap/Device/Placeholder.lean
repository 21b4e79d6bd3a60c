/-!
# Placeholders in names

The name of a repeated node holds a placeholder: `%s` in the name of a list, where each instance
puts its own index, and `[%s]` in the name of an array, which stays one node.

## Main definitions

* `baseName` : a name without its placeholders.
* `fillPlaceholder` : a list's name with an index in place of every placeholder.
* `isListName`, `isArrayName` : which kind of placeholder a name holds.

## Main results

* `baseName_of_not_mem` : a name without a percent sign is its own base name.
-/

namespace RegisterMap

/-- Characters without the placeholders among them; an array's brackets go with its placeholder. -/
def dropPlaceholders : List Char → List Char
  | '[' :: '%' :: 's' :: ']' :: cs => dropPlaceholders cs
  | '%' :: 's' :: cs => dropPlaceholders cs
  | c :: cs => c :: dropPlaceholders cs
  | [] => []

/-- Name without its placeholders. -/
def baseName (name : String) : String := String.ofList (dropPlaceholders name.toList)

/-- Characters with an index in place of every placeholder. -/
def substitute (index : List Char) : List Char → List Char
  | '%' :: 's' :: cs => index ++ substitute index cs
  | c :: cs => c :: substitute index cs
  | [] => []

/-- Name with an index in place of every placeholder. -/
def fillPlaceholder (name index : String) : String :=
  String.ofList (substitute index.toList name.toList)

/-- Some part of the second list of characters is the first. -/
def occursIn (part : List Char) : List Char → Bool
  | [] => part.isEmpty
  | c :: cs => part.isPrefixOf (c :: cs) || occursIn part cs

/-- Name of an array: it holds a placeholder in brackets. -/
def isArrayName (name : String) : Bool := occursIn ['[', '%', 's', ']'] name.toList

/-- Name of a list: it holds a placeholder, and none in brackets. -/
def isListName (name : String) : Bool := occursIn ['%', 's'] name.toList && !isArrayName name

theorem dropPlaceholders_of_not_mem {cs : List Char} (h : '%' ∉ cs) : dropPlaceholders cs = cs := by
  fun_induction dropPlaceholders cs with
  | case1 cs ih => simp at h
  | case2 cs ih => simp at h
  | case3 c cs _ _ ih => rw [ih fun hc => h (List.mem_cons_of_mem _ hc)]
  | case4 => rfl

/-- Name without a percent sign: it holds no placeholder to drop. -/
theorem baseName_of_not_mem {name : String} (h : '%' ∉ name.toList) : baseName name = name := by
  rw [baseName, dropPlaceholders_of_not_mem h, String.ofList_toList]

end RegisterMap
