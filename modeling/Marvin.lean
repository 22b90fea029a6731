import Marvin.Swap.Handshake
import Marvin.Mirror.Object
import Marvin.Jni.GlobalRefs
import Marvin.Jni.AllocationTracking
import Marvin.Jni.Libraries
import Marvin.Jni.WeakGlobals
import Marvin.Jni.NativeLibraries
import Marvin.Space.Variants
import Marvin.Space.Zygote
import Marvin.Space.FreeListRoundTrip
import Marvin.Gc.Heap
import Marvin.Gc.LargeObjectAlloc
import Marvin.Mirror.MultiArray
import Marvin.Mirror.PrimitiveArray
