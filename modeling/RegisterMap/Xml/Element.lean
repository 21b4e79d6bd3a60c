/-!
# XML elements

What a reader of a document needs of it: elements with their attributes, the text before the first
inner element, and the inner elements in order.

## Main definitions

* `Element` : an element.
* `Element.child?`, `Element.childrenNamed` : inner elements by tag.
* `Element.attribute?` : the value of an attribute.

## Main results

* `Element.induction` : to prove a statement of every element, prove it of an element whose inner
  elements have it.
-/

namespace RegisterMap.Xml

/-- An element. A tag in a namespace is written with the namespace in braces in front. The text is
what stands before the first inner element. -/
structure Element where
  tag : String
  attributes : List (String × String) := []
  text : String := ""
  children : List Element := []
  deriving Repr, Inhabited

namespace Element

/-- The first inner element of a tag. -/
def child? (e : Element) (tag : String) : Option Element := e.children.find? fun c => c.tag == tag

/-- The inner elements of a tag. -/
def childrenNamed (e : Element) (tag : String) : List Element :=
  e.children.filter fun c => c.tag == tag

/-- The value of an attribute. -/
def attribute? (e : Element) (name : String) : Option String := e.attributes.lookup name

/-- A statement holds of every element if it holds of each whose inner elements have it. -/
theorem induction {P : Element → Prop} (step : ∀ e : Element, (∀ c ∈ e.children, P c) → P e)
    (e : Element) : P e :=
  Element.rec (motive_1 := P) (motive_2 := fun es => ∀ e ∈ es, P e)
    (fun tag attributes text children ih => step ⟨tag, attributes, text, children⟩ ih)
    (fun _ h => absurd h List.not_mem_nil)
    (fun _ _ he hes _ h => (List.mem_cons.1 h).elim (fun eq => eq ▸ he) (hes _))
    e

end Element

end RegisterMap.Xml
