import BingePodcast.ForStd.Digits
import BingePodcast.ForStd.Except
import BingePodcast.ForStd.List
import BingePodcast.ForStd.Machine
import BingePodcast.ForStd.Component
import BingePodcast.ForStd.Multiset
import BingePodcast.ForStd.Workspace
import BingePodcast.Native.Swift
import BingePodcast.Native.Decode
import BingePodcast.Native.Firestore
import BingePodcast.Native.FirebaseService
import BingePodcast.Native.PodcastScreen
import BingePodcast.Native.CoreDataManager
import BingePodcast.Native.CoreDataStack
import BingePodcast.Native.PlayerViewController
import BingePodcast.Native.EpisodeSelection
import BingePodcast.Native.Favorites
import BingePodcast.Native.ImageCell
import BingePodcast.Native.ListView
import BingePodcast.Native.HomeViewController
import BingePodcast.Native.EpisodeLists
import BingePodcast.Native.Time
import BingePodcast.Native.FavoriteViewController
import BingePodcast.Native.SwitchPlayer
import BingePodcast.Native.App
import BingePodcast.Spec.PagingCorrect
import BingePodcast.Spec.PagingComplete
import BingePodcast.Spec.PagingInterference
import BingePodcast.Spec.PodcastScreenInvariant
import BingePodcast.Spec.PodcastScreenIndex
import BingePodcast.Spec.PodcastScreenPages
import BingePodcast.Spec.PodcastScreenOrder
import BingePodcast.Spec.PodcastScreenConserved
import BingePodcast.Spec.PodcastScreenProgress
import BingePodcast.Spec.CarouselCorrect
import BingePodcast.Spec.HandlersCorrect
import BingePodcast.Spec.FavoritesCorrect
import BingePodcast.Spec.CoreDataStackCorrect
import BingePodcast.Spec.FavoritesGrouped
import BingePodcast.Spec.FavoriteButtonCorrect
import BingePodcast.Spec.FavoritesInvariant
import BingePodcast.Spec.FavoritesAlone
import BingePodcast.Spec.FavoritesTaps
import BingePodcast.Spec.FavoritesListed
import BingePodcast.Spec.FavoritesProgress
import BingePodcast.Spec.FavoriteRoundTrip
import BingePodcast.Spec.ImageCellCorrect
import BingePodcast.Spec.ListViewCorrect
import BingePodcast.Spec.HomeCorrect
import BingePodcast.Spec.EpisodeListsCorrect
import BingePodcast.Spec.AppCorrect
import BingePodcast.Spec.TimeCorrect
import BingePodcast.Spec.FavoriteTabsCorrect
import BingePodcast.Spec.SwitchPlayerCorrect
