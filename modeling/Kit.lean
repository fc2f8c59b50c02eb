import Kit.Store.Object
import Kit.Store.Apply
import Kit.Master.Endpoint
import Kit.Addons.KubeProxy
import Kit.Addons.Idempotence
import Kit.Controlplane.Composer
import Kit.Resource.SecurityGroup
import Kit.Cluster.DirectoryIterator
import Kit.Cluster.BatchUpload
import Kit.Cluster.Delete
import Kit.Cluster.DeleteBatches
import Kit.Cluster.Walk
import Kit.Cluster.Config
