import BingePodcast.ForStd.Machine
import Mathlib.Data.Int.Notation

/-!
# The pictures of reused cells

The three cells that download their picture with `ImageCallURL.downloadImage`. UIKit sets
the same cell up for one item after another, while downloads that earlier set-ups started
stay in flight: URLSession calls their handlers in any order, and a picture that was
downloaded waits in the main queue until its block runs.

What Foundation takes for a URL and UIKit for an image is a parameter, and so are the
pictures themselves.
-/

namespace BingePodcast

/-- The arguments of a handler of `dataTask`. -/
structure DataTaskResult (Data : Type) where
  data : Option Data
  /-- The status code of the response, if that is an `HTTPURLResponse`. -/
  statusCode : Option ℤ
  /-- `error` is not `nil`. -/
  error : Bool
deriving DecidableEq, Repr

/-- What the cells use of Foundation and UIKit, and the pictures behind the URLs. -/
structure ImageSource (Data Image : Type) where
  /-- `URL(string: urlString)` is not `nil`. -/
  isURL : String → Bool
  /-- `UIImage(data: data)` -/
  decode : Data → Option Image
  /-- The image that a download from a URL yields if it succeeds. -/
  imageOf : String → Image

variable {Data Image : Type}

/-- What the handler in `downloadImage` passes to `completion`. -/
def ImageCallURL.downloadImage (decode : Data → Option Image) (urlString : String)
    (result : DataTaskResult Data) : Option Image × Option String :=
  if result.error then (none, some urlString)
  else
    match result.statusCode with
    | some statusCode =>
      if 200 ≤ statusCode ∧ statusCode ≤ 299 then (result.data.bind decode, some urlString)
      else (none, some urlString)
    | none => (none, some urlString)

/-! ## The cells -/

/-- What an image view shows. -/
inductive Picture (Image : Type) where
  /-- What it has when the cell is created. -/
  | initial
  | placeholderImage
  | image (imageObject : Image)
deriving DecidableEq, Repr

/-- The properties of a cell that its picture depends on. Only one class has an
    `imageName`. -/
structure ImageCell (Image : Type) where
  imageName : String := ""
  picture : Picture Image := .initial
deriving DecidableEq, Repr

/-- What a class of cells does with its picture. -/
structure ImageCellClass (Image : Type) where
  /-- A set-up for an image URL, up to its download. -/
  setup : ImageCell Image → String → ImageCell Image
  /-- The block in the main queue, given the image URL of the set-up, `imageObject` and
      `urlString`. -/
  completion : ImageCell Image → String → Image → Option String → ImageCell Image

/-- `setupCell(…)` -/
def CellEpisodeTabViewCell : ImageCellClass Image where
  setup cell _ := { cell with picture := .placeholderImage }
  completion cell imageEpisode imageObject urlString :=
    match urlString with
    | some urlString =>
      -- both are what the closure captured, whatever the cell shows by now
      if imageEpisode = urlString then { cell with picture := .image imageObject } else cell
    | none => cell

/-- `setUpUI(…)` -/
def CellPodcastCollectionViewCell : ImageCellClass Image where
  setup cell _ := { cell with picture := .placeholderImage }
  completion cell _ imageObject _ := { cell with picture := .image imageObject }

/-- `setup(…)` -/
def PodcastHomePageCollectionViewCell : ImageCellClass Image where
  setup _ imagePodcastName := { imageName := imagePodcastName, picture := .placeholderImage }
  completion cell _ imageObject urlString :=
    match urlString with
    | some urlString =>
      if cell.imageName = urlString then { cell with picture := .image imageObject } else cell
    | none => cell

/-! ## Set-ups and downloads -/

/-- A download, by the image URL of its set-up and the number of set-ups before that. -/
structure ImageDownload where
  imageURL : String
  setup : Nat
deriving DecidableEq, Repr

/-- A block in the main queue, with what its closure captures. -/
structure ImageBlock (Image : Type) where
  download : ImageDownload
  imageObject : Image
  urlString : Option String
deriving DecidableEq, Repr

/-- A cell with its downloads in flight and their blocks in the main queue. `setups` and
    `succeeded` are records: the image URLs it was set up for, and whether the download of
    the latest set-up has yielded an image. -/
structure ReusedCell (Image : Type) where
  cell : ImageCell Image := {}
  requests : List ImageDownload := []
  mainQueue : List (ImageBlock Image) := []
  setups : List String := []
  succeeded : Bool := false
deriving DecidableEq, Repr

/-- What can happen: a set-up, the answer to a download, or a turn of the main queue. -/
inductive ReusedCellEvent (Data : Type) where
  | setup (imageURL : String)
  | dataTaskResult (download : ImageDownload) (result : DataTaskResult Data)
  | mainQueueBlock
deriving DecidableEq, Repr

namespace ReusedCell

/-- The closure that a cell passes to `downloadImage` as `completion`. -/
def completion (reused : ReusedCell Image) (download : ImageDownload) :
    Option Image × Option String → ReusedCell Image
  | (some imageObject, urlString) => { reused with
      mainQueue := reused.mainQueue ++ [⟨download, imageObject, urlString⟩]
      succeeded := reused.succeeded || download.setup + 1 == reused.setups.length }
  | (none, _) => reused

/-- One event. -/
def step (source : ImageSource Data Image) (cls : ImageCellClass Image)
    (reused : ReusedCell Image) : ReusedCellEvent Data → ReusedCell Image
  | .setup imageURL =>
    let download : ImageDownload := ⟨imageURL, reused.setups.length⟩
    let reused := { reused with
      cell := cls.setup reused.cell imageURL
      setups := reused.setups ++ [imageURL]
      succeeded := false }
    if source.isURL imageURL then { reused with requests := reused.requests ++ [download] }
    -- without a URL nothing is downloaded
    else reused.completion download (none, some imageURL)
  | .dataTaskResult download result =>
    { reused with requests := reused.requests.erase download }.completion download
      (ImageCallURL.downloadImage source.decode download.imageURL result)
  | .mainQueueBlock =>
    match reused.mainQueue with
    | block :: blocks => { reused with
        cell := cls.completion reused.cell block.download.imageURL block.imageObject block.urlString
        mainQueue := blocks }
    | [] => reused

/-- A download in flight is answered, and an image it yields is the one behind its URL. -/
def Enabled (source : ImageSource Data Image) (reused : ReusedCell Image) :
    ReusedCellEvent Data → Prop
  | .setup _ => True
  | .dataTaskResult download result => download ∈ reused.requests ∧
      ∀ imageObject ∈ (ImageCallURL.downloadImage source.decode download.imageURL result).1,
        imageObject = source.imageOf download.imageURL
  | .mainQueueBlock => reused.mainQueue ≠ []

/-- The runs of a cell from its creation on. -/
def machine (source : ImageSource Data Image) (cls : ImageCellClass Image) :
    Machine (ReusedCell Image) (ReusedCellEvent Data) Empty where
  init := {}
  Enabled := Enabled source
  step reused event := .ok (reused.step source cls event)

instance [DecidableEq Image] (source : ImageSource Data Image) (cls : ImageCellClass Image)
    (reused : ReusedCell Image) (event : ReusedCellEvent Data) :
    Decidable ((machine source cls).Enabled reused event) :=
  match event with
  | .setup _ => inferInstanceAs (Decidable True)
  | .dataTaskResult _ _ => inferInstanceAs (Decidable (_ ∧ ∀ _ ∈ _, _))
  | .mainQueueBlock => inferInstanceAs (Decidable (¬ _ = []))

end ReusedCell

end BingePodcast
