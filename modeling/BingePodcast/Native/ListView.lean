import BingePodcast.ForStd.Component
import BingePodcast.Native.ImageCell
import BingePodcast.Native.Swift

/-!
# Lists

The tables and collection views of the app. UIKit counts the rows of a list when the list is
reloaded, asks its data source for a cell whenever one of these rows comes on display, and
puts cells that leave it aside to have them set up again for other rows. What the cells
download meanwhile is in `ImageCell.lean`.

A list is a component of the screen that it belongs to: it reads the screen through its data
source, and the screen's handlers reload it.
-/

namespace BingePodcast

/-- Where an item of a list is. -/
structure IndexPath where
  sectionIndex : ℕ
  row : ℕ
deriving DecidableEq, Repr

/-- What a data source sets a cell up with: the texts of its labels and its image URL. -/
structure CellContent where
  texts : List String
  imageURL : String
deriving DecidableEq, Repr

/-- What UIKit asks the data source of a list for. -/
structure DataSource where
  /-- `numberOfRowsInSection` for each of the `numberOfSections`. -/
  sectionRows : List ℕ
  /-- What `cellForRowAt` sets the dequeued cell up with. -/
  cellForRowAt : IndexPath → Except Trap CellContent

/-- The sections have such a row. -/
def HasRow (sectionRows : List ℕ) (indexPath : IndexPath) : Prop :=
  ∃ rows ∈ sectionRows[indexPath.sectionIndex]?, indexPath.row < rows

instance (sectionRows : List ℕ) (indexPath : IndexPath) :
    Decidable (HasRow sectionRows indexPath) := inferInstanceAs (Decidable (∃ _ ∈ _, _ < _))

variable {Data Image : Type}

/-- A cell of a list. -/
structure ListCell (Image : Type) where
  reused : ReusedCell Image := {}
  /-- The texts of the labels. -/
  texts : List String := []
  /-- The row that the cell is on display for, unless it waits for its reuse. -/
  indexPath : Option IndexPath := none
deriving DecidableEq, Repr

/-- A list: the rows that it has counted, and the cells that it was given. -/
structure ListView (Image : Type) where
  sectionRows : List ℕ := []
  cells : List (ListCell Image) := []
deriving DecidableEq, Repr

/-- What can happen to a list. -/
inductive ListViewEvent (Data : Type) where
  /-- UIKit reloads the list on its own, as it does when the list comes into its window. -/
  | reloadData
  /-- A row comes on display, with the cell at an index if one is dequeued. -/
  | cellForRowAt (dequeued : Option ℕ) (indexPath : IndexPath)
  /-- A cell leaves the display. -/
  | didEndDisplaying (cell : ℕ)
  /-- A download of a cell is answered, or its block runs. -/
  | download (cell : ℕ) (event : ReusedCellEvent Data)
deriving DecidableEq, Repr

/-- The set-ups among the events of a cell. -/
def ReusedCellEvent.isSetup : ReusedCellEvent Data → Bool
  | .setup _ => true
  | .dataTaskResult _ _ | .mainQueueBlock => false

namespace ListCell

/-- A set-up for a row. -/
def setUp (images : ImageSource Data Image) (cls : ImageCellClass Image) (content : CellContent)
    (indexPath : IndexPath) (cell : ListCell Image) : ListCell Image where
  reused := cell.reused.step images cls (.setup content.imageURL)
  texts := content.texts
  indexPath := some indexPath

/-- The cell waits for its reuse. -/
def enqueue (cell : ListCell Image) : ListCell Image := { cell with indexPath := none }

end ListCell

namespace ListView

/-- `reloadData()`: the rows are counted again, and all cells are put aside. -/
def reloadData (view : ListView Image) (source : DataSource) : ListView Image where
  sectionRows := source.sectionRows
  cells := view.cells.map ListCell.enqueue

/-- The list's part of `cellForRowAt`: a dequeued cell or a new one is set up. -/
def display (view : ListView Image) (dequeued : Option ℕ)
    (setUp : ListCell Image → ListCell Image) : ListView Image :=
  match dequeued with
  | some cell => { view with cells := view.cells.modify cell setUp }
  | none => { view with cells := view.cells ++ [setUp {}] }

/-- One event. -/
def step (images : ImageSource Data Image) (cls : ImageCellClass Image) (source : DataSource)
    (view : ListView Image) : ListViewEvent Data → Except Trap (ListView Image)
  | .reloadData => .ok (view.reloadData source)
  | .cellForRowAt dequeued indexPath => do
    let content ← source.cellForRowAt indexPath
    return view.display dequeued (ListCell.setUp images cls content indexPath)
  | .didEndDisplaying cell => .ok { view with cells := view.cells.modify cell ListCell.enqueue }
  | .download cell event => .ok { view with
      cells := view.cells.modify cell fun listCell =>
        { listCell with reused := listCell.reused.step images cls event } }

/-- The list has a cell with such a property at an index. -/
def HasCell (view : ListView Image) (cell : ℕ) (P : ListCell Image → Prop) : Prop :=
  ∃ listCell ∈ view.cells[cell]?, P listCell

/-- UIKit asks for the rows that it has counted, and dequeues the cells that were put
    aside. -/
def Enabled (images : ImageSource Data Image) (view : ListView Image) :
    ListViewEvent Data → Prop
  | .reloadData => True
  | .cellForRowAt dequeued indexPath => HasRow view.sectionRows indexPath ∧
      ∀ cell ∈ dequeued, view.HasCell cell (·.indexPath = none)
  | .didEndDisplaying cell => view.HasCell cell (·.indexPath ≠ none)
  | .download cell event => event.isSetup = false ∧
      view.HasCell cell fun listCell => ReusedCell.Enabled images listCell.reused event

end ListView

/-- The lists of a screen with states `σ` and events `ε`, called `ℓ`. -/
structure Lists (σ ε ℓ Image : Type) where
  /-- The class of the cells. -/
  cls : ℓ → ImageCellClass Image
  /-- The data source of a list, once there is such a list. -/
  dataSource : σ → ℓ → Option DataSource
  /-- The lists that the handlers of an event reload. -/
  reloads : σ → ε → ℓ → Bool

namespace Lists

variable {σ ε ℓ : Type} [DecidableEq ℓ]

/-- The lists as a component of their screen. -/
def component (lists : Lists σ ε ℓ Image) (images : ImageSource Data Image) :
    Component σ ε (ℓ → ListView Image) (ℓ × ListViewEvent Data) Trap where
  init _ := {}
  follow screen event screen' views list :=
    match lists.dataSource screen' list with
    | some source =>
      if lists.reloads screen event list then (views list).reloadData source else views list
    | none => views list
  Enabled screen views event :=
    (lists.dataSource screen event.1).isSome ∧ (views event.1).Enabled images event.2
  step screen views event :=
    match lists.dataSource screen event.1 with
    | some source => do
      let view ← (views event.1).step images (lists.cls event.1) source event.2
      return Function.update views event.1 view
    | none => .ok views

end Lists

section Instances

variable [DecidableEq Image]

instance (images : ImageSource Data Image) (reused : ReusedCell Image)
    (event : ReusedCellEvent Data) : Decidable (ReusedCell.Enabled images reused event) :=
  inferInstanceAs (Decidable
    ((ReusedCell.machine images CellEpisodeTabViewCell).Enabled reused event))

instance (view : ListView Image) (cell : ℕ) (P : ListCell Image → Prop) [DecidablePred P] :
    Decidable (view.HasCell cell P) := inferInstanceAs (Decidable (∃ _ ∈ _, _))

instance (images : ImageSource Data Image) (view : ListView Image) (event : ListViewEvent Data) :
    Decidable (view.Enabled images event) :=
  match event with
  | .reloadData => inferInstanceAs (Decidable True)
  | .cellForRowAt _ _ => inferInstanceAs (Decidable (_ ∧ ∀ _ ∈ _, ListView.HasCell _ _ _))
  | .didEndDisplaying _ => inferInstanceAs (Decidable (ListView.HasCell _ _ _))
  | .download _ _ => inferInstanceAs (Decidable (_ = _ ∧ ListView.HasCell _ _ _))

instance {σ ε ℓ : Type} [DecidableEq ℓ] (lists : Lists σ ε ℓ Image)
    (images : ImageSource Data Image) (screen : σ) (views : ℓ → ListView Image)
    (event : ℓ × ListViewEvent Data) :
    Decidable ((lists.component images).Enabled screen views event) :=
  inferInstanceAs (Decidable (_ = _ ∧ ListView.Enabled _ _ _))

end Instances

end BingePodcast
